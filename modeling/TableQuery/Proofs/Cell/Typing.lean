import TableQuery.Dataset
import TableQuery.Proofs.Numeral.Grammar
import TableQuery.Proofs.Sorting.Comparison

/-! # Typed cells keep their numbers

A field of comma-separated text becomes a number only if a reader of doubles takes it, and such a
reader knows other texts than those that count as numbers: it knows the values that are not finite
by more names, and no literals in a base.  But where it finds a finite double, the text counts as
that double, so comparisons of numbers see the same number whatever a field was typed as.
-/

namespace TableQuery

namespace Numeral

/-! ## Readers of doubles -/

/-- The values that are not finite, by their names in any case. -/
def named? (s : List Char) : Option Float :=
  let (negative, word) := splitSign s
  if Text.eqIgnoringAsciiCase word "inf".toList ||
      Text.eqIgnoringAsciiCase word "infinity".toList then
    some (infinite negative)
  else if Text.eqIgnoringAsciiCase word "nan".toList then some notANumber
  else none

/-- The double that a text is read as: a decimal or the name of a value that is not finite. -/
def double? (s : List Char) : Option Float := named? s <|> decimal? s

theorem decimal?_eq_none_of_head {s : List Char} {c : Char} {rest : List Char}
    (isCons : (splitSign s).2 = c :: rest) (noDigit : c.isDigit = false) (noPoint : c ≠ '.') :
    decimal? s = none := by
  have noDigits : splitDigits (c :: rest) = ([], c :: rest) := by simp [splitDigits, noDigit]
  have noMantissa : mantissa? (c :: rest) = none := by
    rw [mantissa?, noDigits]
    simp [noPoint]
  rw [decimal?]
  simp only [isCons, unsignedDecimal?, noMantissa, Option.map_none]

/-- A text that equals a word whatever its case begins neither with a digit nor with a point. -/
theorem exists_head_of_eqIgnoringAsciiCase {s word : List Char} {first : Char}
    (letter : first.toLower.isLower = true)
    (same : Text.eqIgnoringAsciiCase s (first :: word) = true) :
    ∃ c rest, s = c :: rest ∧ c.isDigit = false ∧ c ≠ '.' := by
  rw [Text.eqIgnoringAsciiCase, beq_iff_eq, List.map_cons, List.map_eq_cons_iff] at same
  obtain ⟨c, rest, rfl, sameFirst, -⟩ := same
  rw [← sameFirst] at letter
  refine ⟨c, rest, rfl, ?_, ?_⟩
  · rw [Bool.eq_false_iff]
    intro digit
    rw [(Text.isLowered_of_isDigit digit).2, Text.not_isLower_of_isDigit digit] at letter
    cases letter
  · rintro rfl
    cases letter

theorem of_named? {s : List Char} {x : Float} (isNamed : named? s = some x) :
    decimal? s = none ∧ x.isFinite = false := by
  have noDecimal : ∀ {word : List Char} {first : Char}, first.toLower.isLower = true →
      Text.eqIgnoringAsciiCase (splitSign s).2 (first :: word) = true → decimal? s = none := by
    intro word first letter same
    obtain ⟨c, rest, isCons, noDigit, noPoint⟩ := exists_head_of_eqIgnoringAsciiCase letter same
    exact decimal?_eq_none_of_head isCons noDigit noPoint
  rw [named?] at isNamed
  simp only at isNamed
  split at isNamed
  · next isInfinity =>
    rw [Bool.or_eq_true] at isInfinity
    obtain rfl := Option.some.inj isNamed
    refine ⟨isInfinity.elim (noDecimal rfl) (noDecimal rfl), ?_⟩
    cases (splitSign s).1 <;> rfl
  · split at isNamed
    · next isName =>
      obtain rfl := Option.some.inj isNamed
      exact ⟨noDecimal rfl isName, rfl⟩
    · cases isNamed

theorem double?_finite_iff {s : List Char} {x : Float} :
    double? s = some x ∧ x.isFinite = true ↔ decimal? s = some x ∧ x.isFinite = true := by
  rw [double?]
  cases isNamed : named? s with
  | none => simp
  | some y =>
    obtain ⟨noDecimal, notFinite⟩ := of_named? isNamed
    rw [noDecimal]
    simp only [Option.orElse_eq_orElse, Option.orElse_eq_or, Option.some_or, Option.some.injEq,
      reduceCtorEq, false_and, iff_false, not_and, Bool.not_eq_true]
    rintro rfl
    exact notFinite

end Numeral

/-! ## Comparisons of numbers -/

variable {a b : Cell}

/-- A numeric operator sees nothing of a cell but the number that it counts as. -/
theorem Condition.meets_congr {operator : Operator} (isNumeric : operator.isNumeric = true)
    (same : a.toNumber = b.toNumber) (value : Prepared) :
    Condition.meets a operator value = Condition.meets b operator value := by
  cases operator with
  | gt | lt | gte | lte | between => cases value <;> simp only [Condition.meets, same]
  | equals | contains | oneOf | regex => cases isNumeric

theorem Condition.holds_eq_meets (c : Condition) (cell : Cell) : c.holds (some cell) =
    (!cell.isNull && Condition.meets cell c.operator (Condition.prepare c.operator c.value)) := by
  cases cell <;> rfl

/-! ## Fields -/

namespace Cell

/-- What a field that is no truth value is typed as. -/
inductive IsTypedAs (raw : String) : Cell → Prop where
  | null (blank : Text.trim raw.toList = []) : IsTypedAs raw .null
  | number {x : Float} (nonblank : Text.trim raw.toList ≠ [])
      (isRead : Numeral.decimal? (Text.trim raw.toList) = some x) (finite : x.isFinite = true) :
      IsTypedAs raw (.number x)
  | text (nonblank : Text.trim raw.toList ≠ [])
      (notRead : ∀ x, Numeral.decimal? (Text.trim raw.toList) = some x → x.isFinite = false) :
      IsTypedAs raw (.text raw)

variable {raw : String}

theorem isTypedAs_infer
    (notTrue : Text.eqIgnoringAsciiCase (Text.trim raw.toList) "true".toList = false)
    (notFalse : Text.eqIgnoringAsciiCase (Text.trim raw.toList) "false".toList = false) :
    IsTypedAs raw (infer raw.toList) := by
  have isTrue : ['t', 'r', 'u', 'e'] = "true".toList := by decide
  have isFalse : ['f', 'a', 'l', 's', 'e'] = "false".toList := by decide
  simp only [infer, isTrue, isFalse, notTrue, notFalse, Bool.false_eq_true, if_false,
    List.isEmpty_iff, String.ofList_toList]
  split
  · next blank => exact .null blank
  · next nonblank =>
    split
    · next x isRead =>
      split
      · next finite => exact .number nonblank isRead finite
      · next notFinite =>
        refine .text nonblank fun y isRead' => ?_
        obtain rfl := Option.some.inj (isRead.symm.trans isRead')
        exact Bool.eq_false_iff.2 notFinite
    · next notRead =>
      refine .text nonblank fun y isRead' => ?_
      rw [notRead] at isRead'
      cases isRead'

namespace IsTypedAs

variable {cell : Cell} (typed : IsTypedAs raw cell)

include typed

theorem toNumber_eq : cell.toNumber = Numeral.ofText raw := by
  rw [Numeral.ofText_eq]
  cases typed with
  | null blank => rw [if_pos blank]; rfl
  | number nonblank isRead finite =>
    rw [if_neg nonblank, Numeral.value?_of_decimal? isRead]
    rfl
  | text nonblank notRead =>
    rw [← Numeral.ofText_eq]
    rfl

theorem eq_number_iff (x : Float) : cell = .number x ↔
    Numeral.double? (Text.trim raw.toList) = some x ∧ x.isFinite = true := by
  rw [Numeral.double?_finite_iff]
  cases typed with
  | null blank =>
    rw [blank]
    exact iff_of_false (by simp) (fun read => by cases read.1)
  | @number y nonblank isRead finite =>
    rw [isRead, number.injEq, Option.some.injEq]
    exact ⟨fun same => ⟨same, same ▸ finite⟩, And.left⟩
  | text nonblank notRead =>
    refine iff_of_false (by simp) fun ⟨isRead, finite⟩ => ?_
    rw [notRead x isRead] at finite
    cases finite

theorem isNull_eq : cell.isNull = (Text.trim raw.toList).isEmpty := by
  cases typed with
  | null blank => rw [blank]; rfl
  | number nonblank | text nonblank =>
    rw [Bool.eq_false_iff.2 (mt List.isEmpty_iff.1 nonblank)]
    rfl

end IsTypedAs

/-- A field that is no truth value counts as the same number whatever it is typed as: it is typed
    as a number just if it is read as a finite double, a numeric condition holds of it just if it
    is not blank and holds of the number that its text counts as, and in the order of rows it is
    compared as that number, except with a text where it is one itself. -/
theorem toNumber_infer (raw : String)
    (notTrue : Text.eqIgnoringAsciiCase (Text.trim raw.toList) "true".toList = false)
    (notFalse : Text.eqIgnoringAsciiCase (Text.trim raw.toList) "false".toList = false) :
    let cell := infer raw.toList
    let number := Cell.number (Numeral.ofText raw)
    cell.toNumber = Numeral.ofText raw ∧
    (∀ x, cell = .number x ↔
      Numeral.double? (Text.trim raw.toList) = some x ∧ x.isFinite = true) ∧
    (∀ c : Condition, c.operator.isNumeric = true →
      c.holds (some cell) = (!(Text.trim raw.toList).isEmpty && c.holds (some number))) ∧
    ∀ other : Cell, cell.text? = none ∨ other.text? = none →
      compareCells (some cell) (some other) = compareCells (some number) (some other) := by
  intro cell number
  have typed : IsTypedAs raw cell := isTypedAs_infer notTrue notFalse
  have sameNumber : cell.toNumber = number.toNumber := typed.toNumber_eq
  refine ⟨typed.toNumber_eq, typed.eq_number_iff, fun c isNumeric => ?_, fun other notBoth => ?_⟩
  · rw [Condition.holds_eq_meets, Condition.holds_eq_meets, typed.isNull_eq,
      Condition.meets_congr isNumeric sameNumber]
    rfl
  · rw [compareCells_of_text?_eq_none notBoth, compareCells_of_text?_eq_none (.inl rfl),
      sameNumber]

/-- A literal in a base is no double: its field stays a text, and counts as its number even so. -/
theorem toNumber_infer_hexadecimal :
    let cell := infer " 0x1F ".toList
    cell = .text " 0x1F " ∧ cell.toNumber = Numeral.ofText " 0x1F " ∧
      Numeral.ofText " 0x1F " = Numeral.ofText "31" ∧
      (∀ x, cell = .number x ↔
        Numeral.double? (Text.trim " 0x1F ".toList) = some x ∧ x.isFinite = true) ∧
      Condition.holds ⟨"size", .gt, .scalar (.text "30")⟩ (some cell) = true := by
  intro cell
  obtain ⟨sameNumber, isNumber, sameCondition, -⟩ := toNumber_infer " 0x1F " (by decide) (by decide)
  refine ⟨rfl, sameNumber, by decide +kernel, isNumber, ?_⟩
  rw [sameCondition _ rfl]
  decide +kernel

end Cell

end TableQuery
