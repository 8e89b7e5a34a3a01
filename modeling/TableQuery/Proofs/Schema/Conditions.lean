import TableQuery.Schema

/-! # Conditions made with a schema

A schema checks the value of a condition when it makes one, and the value is prepared again
when cells are tested.  The two agree: what the schema lets through can be prepared, and what
it turns down for an operator that takes its values in this shape only holds of no cell.
-/

namespace TableQuery.Schema

variable {s : Schema} {key name : String} {operator : Operator} {value : Operand}

/-! ## The shape of a value -/

/-- A pattern is compiled from the same text by the schema and for the test of cells. -/
theorem shapeError?_regex_scalar (key : String) (v : Cell) :
    shapeError? key .regex (.scalar v) = none ↔
      Condition.prepare .regex (.scalar v) ≠ .invalid := by
  rw [shapeError?, Condition.prepare, Operand.toText]
  cases Pattern.caseless? v.display.toList <;> simp

theorem shapeError?_between (key : String) (value : Operand) :
    shapeError? key .between value = none ↔ Condition.prepare .between value ≠ .invalid := by
  match value with
  | .list [_, _] => simp [shapeError?, Condition.prepare]
  | .scalar _ | .list [] | .list [_] | .list (_ :: _ :: _ :: _) =>
    simp [shapeError?, Condition.prepare]

theorem shapeError?_oneOf (key : String) (value : Operand) :
    shapeError? key .oneOf value = none ↔ Condition.prepare .oneOf value ≠ .invalid := by
  cases value <;> simp [shapeError?, Condition.prepare]

/-- The schema lets through the values that can be prepared, lists only for the two operators
    that take them. -/
theorem shapeError?_eq_none_iff :
    shapeError? key operator value = none ↔
      Condition.prepare operator value ≠ .invalid ∧
        ∀ vs, value = .list vs → operator = .oneOf ∨ operator = .between := by
  cases operator with
  | between => simp [shapeError?_between]
  | oneOf => simp [shapeError?_oneOf]
  | regex =>
    cases value with
    | scalar v => simp [shapeError?_regex_scalar]
    | list vs => simp [shapeError?]
  | _ => cases value <;> simp [shapeError?, Condition.prepare]

/-! ## The column -/

/-- Is this the first column of the schema with the name? -/
def FirstNamed (s : Schema) (name : String) (column : Column) : Prop :=
  ∃ before after, s.columns = before ++ column :: after ∧ column.hasName name = true ∧
    ∀ other ∈ before, other.hasName name = false

theorem column?_eq_some_iff {column : Column} :
    s.column? name = some column ↔ s.FirstNamed name column := by
  rw [column?, List.find?_eq_some_iff_append]
  constructor
  · rintro ⟨named, before, after, split, earlier⟩
    exact ⟨before, after, split, named, fun other member => by simpa using earlier other member⟩
  · rintro ⟨before, after, split, named, earlier⟩
    exact ⟨named, before, after, split, fun other member => by simpa using earlier other member⟩

theorem column?_eq_none_iff :
    s.column? name = none ↔ ∀ column ∈ s.columns, column.hasName name = false := by
  rw [column?, List.find?_eq_none]
  simp only [Bool.not_eq_true]

/-! ## The condition -/

theorem condition_eq_unknownColumn_iff :
    s.condition name operator value = .error (.unknownColumn name) ↔
      ∀ column ∈ s.columns, column.hasName name = false := by
  rw [condition, ← column?_eq_none_iff]
  cases s.column? name with
  | none => simp
  | some column => cases isShape : shapeError? column.key operator value <;> simp [isShape]

theorem condition_eq_invalidFilter_iff {why : ShapeError} :
    s.condition name operator value = .error (.invalidFilter why) ↔
      ∃ column, s.FirstNamed name column ∧ shapeError? column.key operator value = some why := by
  simp only [condition, ← column?_eq_some_iff]
  cases s.column? name with
  | none => simp
  | some column => cases isShape : shapeError? column.key operator value <;> simp [isShape]

theorem condition_eq_ok_iff {c : Condition} :
    s.condition name operator value = .ok c ↔
      ∃ column, s.FirstNamed name column ∧ shapeError? column.key operator value = none ∧
        c = ⟨column.key, operator, value⟩ := by
  simp only [condition, ← column?_eq_some_iff]
  cases s.column? name with
  | none => simp
  | some column =>
    cases isShape : shapeError? column.key operator value <;> simp [isShape, eq_comm]

/-- The value is at fault where a schema turns it down for an operator that takes its values in
    this shape only. -/
theorem prepare_eq_invalid_of_condition {why : ShapeError}
    (refused : s.condition name operator value = .error (.invalidFilter why))
    (inShape : operator = .between ∨ operator = .oneOf ∨
      (operator = .regex ∧ ∃ v, value = .scalar v)) :
    Condition.prepare operator value = .invalid := by
  obtain ⟨column, -, isError⟩ := condition_eq_invalidFilter_iff.1 refused
  refine Classical.byContradiction fun suits => ?_
  have listTaken : ∀ vs, value = .list vs → operator = .oneOf ∨ operator = .between := by
    rintro vs rfl
    obtain isBetween | isOneOf | ⟨-, v, isScalar⟩ := inShape
    · exact .inr isBetween
    · exact .inl isOneOf
    · cases isScalar
  rw [shapeError?_eq_none_iff.2 ⟨suits, listTaken⟩] at isError
  cases isError

/-- A schema knows no column of a name just if none of its columns has the name, whatever the
    value is.  The condition it makes is on the first column with the name, and its value can be
    prepared.  Where it turns down the value of `between`, of `in`, or of `regex` with one value,
    a condition with that value holds of no cell. -/
theorem condition_agrees (s : Schema) (name : String) (operator : Operator) (value : Operand) :
    (s.condition name operator value = .error (.unknownColumn name) ↔
      ∀ column ∈ s.columns, column.hasName name = false) ∧
    (∀ c, s.condition name operator value = .ok c ↔
      ∃ column, s.FirstNamed name column ∧ c = ⟨column.key, operator, value⟩ ∧
        Condition.prepare c.operator c.value ≠ .invalid ∧
        ∀ vs, c.value = .list vs → c.operator = .oneOf ∨ c.operator = .between) ∧
    (∀ why, s.condition name operator value = .error (.invalidFilter why) →
      operator = .between ∨ operator = .oneOf ∨ (operator = .regex ∧ ∃ v, value = .scalar v) →
      ∀ key cell, Condition.holds ⟨key, operator, value⟩ cell = false) := by
  refine ⟨condition_eq_unknownColumn_iff, fun c => ?_, fun why refused inShape key cell => ?_⟩
  · rw [condition_eq_ok_iff]
    constructor
    · rintro ⟨column, first, noError, rfl⟩
      exact ⟨column, first, rfl, shapeError?_eq_none_iff.1 noError⟩
    · rintro ⟨column, first, rfl, suits⟩
      exact ⟨column, first, shapeError?_eq_none_iff.2 suits, rfl⟩
  · exact Condition.holds_eq_false_of_invalid
      (prepare_eq_invalid_of_condition refused inShape) cell

end TableQuery.Schema
