import TableQuery.Plan.Encoding
import TableQuery.Proofs.Json.Decoding
import TableQuery.Proofs.Json.Export
import TableQuery.Proofs.Numeral.Shown

/-! # Plans that are read back

A plan is restored from what it is encoded as, and the text of that keeps all of it, if its numbers
are whole and without gaps.  A value that is one cell is told from a list, since no cell is encoded
as an array.
-/

namespace TableQuery

open Json

variable {depth : Nat}

/-! ## Cells -/

theorem Numeral.withoutZeroSign_beq {x : Float} (finite : x.isFinite = true) :
    (withoutZeroSign x == x) = true := by
  have same : withoutZeroSign (withoutZeroSign x) = withoutZeroSign x := by
    by_cases isZero : (x == 0) = true <;> simp [withoutZeroSign, isZero]
  have isSame := withoutZeroSign_eq_iff.1 same
  rwa [Double.isNaN_of_isFinite finite, Bool.and_false, Bool.or_false] at isSame

namespace Cell

variable {cell : Cell}

/-- Is the cell no number, or one that is whole and without gaps? -/
def IsInteger (cell : Cell) : Prop :=
  ∀ x, cell = .number x → x.isFinite = true ∧
    ∃ n : Int, n.natAbs ≤ wholeLimit ∧ Double.value x = n

theorem isInteger_iff : cell.IsInteger ↔ ∀ x ∈ cell.number?, (whole? x).isSome = true := by
  constructor
  · intro isInteger x isNumber
    cases cell with
    | number y =>
      obtain rfl : y = x := Option.some.inj isNumber
      obtain ⟨finite, n, small, isValue⟩ := isInteger y rfl
      rw [Double.whole?_of_value finite isValue small]
      rfl
    | null | bool _ | text _ => cases isNumber
  · rintro whole x rfl
    obtain ⟨n, isWhole⟩ := Option.isSome_iff_exists.1 (whole x rfl)
    refine ⟨?_, n, Double.value_of_whole? isWhole⟩
    by_contra infinite
    rw [Double.whole?_of_infinite (by simpa using infinite)] at isWhole
    cases isWhole

instance : Decidable cell.IsInteger := decidable_of_iff _ isInteger_iff.symm

theorem writesCompact_toJson (isInteger : cell.IsInteger) : WritesCompact depth cell.toJson := by
  cases cell with
  | null => exact .null
  | bool b => exact .bool b
  | text s => exact .str s
  | number x =>
    obtain ⟨finite, n, small, isValue⟩ := isInteger x rfl
    have kept : IsKept n := by
      rw [wholeLimit] at small
      simp only [IsKept, magnitudeLimit, significandLimit, UInt64.size]
      omega
    rw [toJson, Double.whole?_of_value finite isValue small]
    exact .int kept

theorem restores_toJson (isInteger : cell.IsInteger) : Restores decode? cell.toJson cell := by
  cases cell with
  | null => exact ⟨.null, rfl, rfl⟩
  | bool b => exact ⟨.bool b, rfl, BEq.refl b⟩
  | text s => exact ⟨.text s, rfl, BEq.refl s⟩
  | number x =>
    obtain ⟨finite, n, small, isValue⟩ := isInteger x rfl
    refine ⟨.number (Numeral.withoutZeroSign x), ?_, Numeral.withoutZeroSign_beq finite⟩
    rw [toJson, Double.whole?_of_value finite isValue small]
    exact congrArg (fun y => some (number y)) (Double.toFloat_of_value finite isValue)

end Cell

/-! ## Values -/

namespace Operand

/-- The cells of a value. -/
def cells : Operand → List Cell
  | .scalar v => [v]
  | .list vs => vs

variable {value : Operand}

theorem writesCompact_toJson (areIntegers : ∀ cell ∈ value.cells, cell.IsInteger) :
    WritesCompact (depth + 1) value.toJson := by
  cases value with
  | scalar v => exact Cell.writesCompact_toJson (areIntegers v List.mem_cons_self)
  | list vs => exact .list fun v isItem => Cell.writesCompact_toJson (areIntegers v isItem)

theorem restores_toJson (areIntegers : ∀ cell ∈ value.cells, cell.IsInteger) :
    Restores decode? value.toJson value := by
  cases value with
  | scalar v =>
    obtain ⟨back, isBack, same⟩ := Cell.restores_toJson (areIntegers v List.mem_cons_self)
    refine ⟨.scalar back, ?_, same⟩
    rw [toJson, decode?, isBack]
  | list vs =>
    obtain ⟨backs, areBacks, same⟩ : Restores (Json.list? Cell.decode?)
        (.arr (vs.map Cell.toJson)) vs :=
      .list fun v member => Cell.restores_toJson (areIntegers v member)
    refine ⟨.list backs, ?_, same⟩
    show (Json.list? Cell.decode? (.arr (vs.map Cell.toJson))).map Operand.list = _
    rw [areBacks]
    rfl

end Operand

/-! ## Conditions -/

theorem Operator.lookup_name (operator : Operator) :
    byName.lookup operator.name = some operator := by
  cases operator <;> decide

namespace Condition

variable {c : Condition}

theorem toJson_eq (c : Condition) : c.toJson = .obj (membersOf [("column", some (.str c.column)),
    ("operator", some (.str c.operator.name)), ("value", some c.value.toJson)]) := rfl

theorem writesCompact_toJson (areIntegers : ∀ cell ∈ c.value.cells, cell.IsInteger) :
    WritesCompact (depth + 2) c.toJson := by
  rw [toJson_eq]
  refine .membersOf ?_
  simp [WritesCompact.str, Operand.writesCompact_toJson areIntegers]

theorem restores_toJson (areIntegers : ∀ cell ∈ c.value.cells, cell.IsInteger) :
    Restores decode? c.toJson c := by
  obtain ⟨value, isValue, same⟩ := Operand.restores_toJson areIntegers
  refine ⟨⟨c.column, c.operator, value⟩, ?_, ?_⟩
  · simp [decode?, toJson_eq, fields?_membersOf, str?, choice?, Operator.lookup_name,
      isValue]
  · show (c.column == c.column && (c.operator == c.operator && value == c.value)) = true
    simp [same]

end Condition

namespace Filter

variable {f : Filter}

/-- The cells of the values of all conditions. -/
def cells (f : Filter) : List Cell := f.conditions.flatMap fun c => c.value.cells

theorem mem_cells {c : Condition} (isCondition : c ∈ f.conditions) {cell : Cell}
    (isCell : cell ∈ c.value.cells) : cell ∈ f.cells :=
  List.mem_flatMap.2 ⟨c, isCondition, isCell⟩

theorem toJson_eq (f : Filter) : f.toJson = .obj (membersOf [
    ("conditions", some (.arr (f.conditions.map Condition.toJson))),
    ("operator", some (.str f.junction.name))]) := rfl

theorem writesCompact_toJson (areIntegers : ∀ cell ∈ f.cells, cell.IsInteger) :
    WritesCompact (depth + 4) f.toJson := by
  have conditions : WritesCompact (depth + 3) (.arr (f.conditions.map Condition.toJson)) :=
    .list fun c isCondition => Condition.writesCompact_toJson fun cell isCell =>
      areIntegers cell (mem_cells isCondition isCell)
  rw [toJson_eq]
  refine .membersOf ?_
  simp [WritesCompact.str, conditions]

theorem restores_toJson (areIntegers : ∀ cell ∈ f.cells, cell.IsInteger) :
    Restores decode? f.toJson f := by
  obtain ⟨conditions, areConditions, same⟩ := Restores.list fun c isCondition =>
    Condition.restores_toJson fun cell isCell => areIntegers cell (mem_cells isCondition isCell)
  have isJunction : [("AND", Junction.all), ("OR", .any)].lookup f.junction.name =
      some f.junction := by
    cases f.junction <;> decide
  refine ⟨⟨conditions, f.junction⟩, ?_, ?_⟩
  · simp [decode?, toJson_eq, fields?_membersOf, choice?, isJunction, areConditions]
  · show (conditions == f.conditions && f.junction == f.junction) = true
    simp [same]

end Filter

/-! ## Sorts -/

namespace SortKey

theorem toJson_eq (key : SortKey) : key.toJson = .obj (membersOf [
    ("column", some (.str key.column)), ("order", some (.str key.order.name))]) := rfl

theorem writesCompact_toJson (key : SortKey) : WritesCompact (depth + 1) key.toJson := by
  rw [toJson_eq]
  refine .membersOf ?_
  simp [WritesCompact.str]

theorem decode?_toJson (key : SortKey) : decode? key.toJson = some key := by
  have isOrder : [("asc", SortOrder.asc), ("desc", .desc)].lookup key.order.name =
      some key.order := by
    cases key.order <;> decide
  simp [decode?, toJson_eq, fields?_membersOf, str?, choice?, isOrder]

end SortKey

/-! ## Plans -/

namespace Plan

variable {p : Plan}

/-- The cells of the filter. -/
def cells (p : Plan) : List Cell := p.filter.elim [] Filter.cells

theorem toJson_eq (p : Plan) : p.toJson = .obj (membersOf [("query", some (.str p.query)),
    ("filter", p.filter.map Filter.toJson), ("sort", p.sort.map SortKey.toJson),
    ("limit", p.limit.map fun n : Nat => .int n), ("explanation", some (.str p.explanation))]) := by
  obtain ⟨query, filter, sort, limit, explanation⟩ := p
  cases limit <;> simp [toJson, membersOf, memberIf]

theorem mem_cells {f : Filter} (isFilter : f ∈ p.filter) {cell : Cell} (member : cell ∈ f.cells) :
    cell ∈ p.cells := by
  rw [cells, Option.mem_def.1 isFilter]
  exact member

theorem writesCompact_toJson (areIntegers : ∀ cell ∈ p.cells, cell.IsInteger)
    (small : ∀ n ∈ p.limit, n < UInt64.size) : WritesCompact (depth + 5) p.toJson := by
  have filter : ∀ f ∈ p.filter, WritesCompact (depth + 4) f.toJson := fun f isFilter =>
    Filter.writesCompact_toJson fun cell member => areIntegers cell (mem_cells isFilter member)
  have limit : ∀ n ∈ p.limit, WritesCompact (depth + 4) (.int n) := fun n isLimit =>
    .count (small n isLimit)
  rw [toJson_eq]
  refine .membersOf ?_
  simpa [WritesCompact.str, SortKey.writesCompact_toJson] using ⟨filter, limit⟩

theorem restores_toJson (areIntegers : ∀ cell ∈ p.cells, cell.IsInteger)
    (small : ∀ n ∈ p.limit, n < UInt64.size) : Restores decode? p.toJson p := by
  obtain ⟨filter, isFilter, same⟩ : Restores (nullable? Filter.decode?)
      (p.filter.map Filter.toJson) p.filter :=
    .nullable nofun fun f isFilter => Filter.restores_toJson fun cell member =>
      areIntegers cell (mem_cells isFilter member)
  have isSort : nullable? SortKey.decode? (p.sort.map SortKey.toJson) = some p.sort :=
    (Restores.nullable nofun fun key _ => .of_eq key.decode?_toJson).eq_some
  have isLimit : nullable? word? (p.limit.map fun n : Nat => .int n) = some p.limit :=
    (Restores.nullable nofun fun n isLimit => .of_eq (word?_count (small n isLimit))).eq_some
  refine ⟨⟨p.query, filter, p.sort, p.limit, p.explanation⟩, ?_, ?_⟩
  · simp [decode?, toJson_eq, fields?_membersOf, str?, isFilter, isSort, isLimit]
  · show (p.query == p.query && (filter == p.filter && (p.sort == p.sort &&
      (p.limit == p.limit && p.explanation == p.explanation)))) = true
    simp [same]

end Plan

end TableQuery
