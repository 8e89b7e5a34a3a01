import TableQuery.Proofs.Outcome.Selection

/-! # Conditions that stand for several

A condition on a list holds where the cell equals an item of it, and a condition on a range
where the cell lies above the one end and below the other.  So either can be written out
within a filter that combines conditions in its way, and the filter keeps the same rows.
-/

namespace TableQuery

namespace Condition

/-! ## Cells -/

theorem holds_oneOf_list (column : String) (vs : List Cell) (cell : Option Cell) :
    holds ⟨column, .oneOf, .list vs⟩ cell =
      vs.any fun v => holds ⟨column, .equals, .scalar v⟩ cell := by
  have onPresent (present : Cell) : meets present .oneOf (prepare .oneOf (.list vs)) =
      vs.any fun v => meets present .equals (prepare .equals (.scalar v)) := by
    simp only [prepare, meets, List.any_map]
    congr 1
    funext v
    exact BEq.comm
  match cell with
  | none | some .null => simp [holds, passes]
  | some (.bool _) | some (.number _) | some (.text _) => exact onPresent _

theorem holds_between_pair (column : String) (low high : Cell) (cell : Option Cell) :
    holds ⟨column, .between, .list [low, high]⟩ cell =
      (holds ⟨column, .gte, .scalar low⟩ cell && holds ⟨column, .lte, .scalar high⟩ cell) := by
  match cell with
  | none | some .null => rfl
  | some (.bool _) | some (.number _) | some (.text _) => rfl

theorem prepare_between_eq_invalid {value : Operand}
    (notPair : ∀ low high, value ≠ .list [low, high]) : prepare .between value = .invalid := by
  rw [prepare]
  exact notPair

end Condition

namespace Filter

/-! ## Rows -/

/-- Do the conditions, combined in this way, hold of the rows that the one condition holds of? -/
def Expands (junction : Junction) (c : Condition) (cs : List Condition) : Prop :=
  cs ≠ [] ∧ ∀ row, Satisfied ⟨cs, junction⟩ row ↔ c.holds (row.get? c.column) = true

theorem accepts_singleton (c : Condition) (junction : Junction) (row : Row) :
    accepts ⟨[c], junction⟩ row = c.holds (row.get? c.column) := by
  rw [Bool.eq_iff_iff, accepts_iff]
  cases junction <;> simp [Satisfied]

theorem keep_singleton (c : Condition) (junction : Junction) (entries : List Entry) :
    keep ⟨[c], junction⟩ entries = entries.filter fun e => c.holds (e.row.get? c.column) := by
  rw [keep_eq_filter]
  exact List.filter_congr fun e _ => accepts_singleton c junction e.row

theorem keep_eq_nil_of_invalid {c : Condition}
    (isInvalid : Condition.prepare c.operator c.value = .invalid) (junction : Junction)
    (entries : List Entry) : keep ⟨[c], junction⟩ entries = [] := by
  rw [keep_singleton, List.filter_eq_nil_iff]
  intro e _
  rw [Condition.holds_eq_false_of_invalid isInvalid]
  exact Bool.false_ne_true

/-- Conditions that one condition expands to can take its place in a filter. -/
theorem Expands.keep_eq {junction : Junction} {c : Condition} {cs : List Condition}
    (expands : Expands junction c cs) (before after : List Condition) (entries : List Entry) :
    keep ⟨before ++ cs ++ after, junction⟩ entries =
      keep ⟨before ++ c :: after, junction⟩ entries := by
  obtain ⟨nonempty, same⟩ := expands
  have sameTest (row : Row) : accepts ⟨before ++ cs ++ after, junction⟩ row =
      accepts ⟨before ++ c :: after, junction⟩ row := by
    rw [Bool.eq_iff_iff, accepts_iff, accepts_iff]
    have here := same row
    cases junction with
    | all =>
      simp only [Satisfied] at here
      simp only [Satisfied, List.forall_mem_append, List.forall_mem_cons, here, and_assoc]
    | any =>
      simp only [Satisfied, nonempty, false_or] at here
      simp only [Satisfied, List.append_eq_nil_iff, nonempty, reduceCtorEq, false_and, and_false,
        false_or, List.mem_append, List.mem_cons, or_and_right, exists_or, exists_eq_left, here,
        or_assoc]
  rw [keep_eq_filter, keep_eq_filter]
  exact List.filter_congr fun e _ => sameTest e.row

theorem expands_oneOf (column : String) {vs : List Cell} (nonempty : vs ≠ []) :
    Expands .any ⟨column, .oneOf, .list vs⟩ (vs.map fun v => ⟨column, .equals, .scalar v⟩) := by
  refine ⟨by simpa using nonempty, fun row => ?_⟩
  simp [Satisfied, nonempty, Condition.holds_oneOf_list, List.any_eq_true]

theorem expands_between (column : String) (low high : Cell) :
    Expands .all ⟨column, .between, .list [low, high]⟩
      [⟨column, .gte, .scalar low⟩, ⟨column, .lte, .scalar high⟩] := by
  refine ⟨List.cons_ne_nil _ _, fun row => ?_⟩
  simp [Satisfied, Condition.holds_between_pair]

/-- A condition on a list keeps the rows whose cell equals an item of it and one on a range those
    whose cell lies between its ends, whatever the items and ends are.  Where all conditions must
    hold, the two ends can stand in place of the range; where one must, the items in place of the
    list.  Anything else in place of a list or a range keeps no row, and no such condition holds
    of a cell that is missing or empty. -/
theorem keep_expanded (entries : List Entry) (column : String) (vs : List Cell)
    (low high : Cell) :
    (∀ junction, keep ⟨[⟨column, .oneOf, .list vs⟩], junction⟩ entries =
      entries.filter fun e =>
        vs.any fun v => Condition.holds ⟨column, .equals, .scalar v⟩ (e.row.get? column)) ∧
    (∀ junction, keep ⟨[⟨column, .oneOf, .list []⟩], junction⟩ entries = []) ∧
    (∀ junction, keep ⟨[⟨column, .between, .list [low, high]⟩], junction⟩ entries =
      entries.filter fun e =>
        Condition.holds ⟨column, .gte, .scalar low⟩ (e.row.get? column) &&
          Condition.holds ⟨column, .lte, .scalar high⟩ (e.row.get? column)) ∧
    (∀ before after,
      keep ⟨before ++ ⟨column, .gte, .scalar low⟩ :: ⟨column, .lte, .scalar high⟩ :: after, .all⟩
          entries =
        keep ⟨before ++ ⟨column, .between, .list [low, high]⟩ :: after, .all⟩ entries) ∧
    (vs ≠ [] → ∀ before after,
      keep ⟨before ++ (vs.map fun v => ⟨column, .equals, .scalar v⟩) ++ after, .any⟩ entries =
        keep ⟨before ++ ⟨column, .oneOf, .list vs⟩ :: after, .any⟩ entries) ∧
    (∀ junction v, keep ⟨[⟨column, .oneOf, .scalar v⟩], junction⟩ entries = []) ∧
    (∀ junction value, (∀ a b, value ≠ .list [a, b]) →
      keep ⟨[⟨column, .between, value⟩], junction⟩ entries = []) ∧
    ∀ operator value cell, cell = none ∨ cell = some .null →
      Condition.holds ⟨column, operator, value⟩ cell = false := by
  refine ⟨fun junction => ?list, fun junction => ?noItems, fun junction => ?range,
    fun before after => ?ends, fun nonempty before after => ?items, fun junction v => ?noList,
    fun junction value notPair => ?noRange, fun operator value cell => ?empty⟩
  case list => simp only [keep_singleton, Condition.holds_oneOf_list]
  case noItems => simp [keep_singleton, Condition.holds_oneOf_list]
  case range => simp only [keep_singleton, Condition.holds_between_pair]
  case ends => simpa using (expands_between column low high).keep_eq before after entries
  case items => exact (expands_oneOf column nonempty).keep_eq before after entries
  case noList => exact keep_eq_nil_of_invalid rfl junction entries
  case noRange =>
    exact keep_eq_nil_of_invalid (Condition.prepare_between_eq_invalid notPair) junction entries
  case empty => exact Condition.holds_eq_false_of_empty _

end Filter

end TableQuery
