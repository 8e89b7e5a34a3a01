import TableQuery.Pattern.Meaning
import TableQuery.Plan

/-! # Testing cells

Whether a cell meets a condition. The value of the condition is prepared first: texts are
put into lower case, numbers are read, patterns are compiled. A value that does not suit
the operator makes a condition that nothing meets, and neither a missing nor an empty
cell meets any condition.
-/

namespace TableQuery

/-- Does the first text occur in the second? -/
def Text.occursIn (needle : List Char) : List Char → Bool
  | [] => needle.isEmpty
  | c :: rest => needle.isPrefixOf (c :: rest) || occursIn needle rest

/-- The value of a condition made ready for tests. -/
inductive Prepared where
  | text (chars : List Char)
  | number (value : Float)
  | set (texts : List (List Char))
  | range (low high : Float)
  | pattern (p : Pattern)
  /-- The value does not suit the operator. -/
  | invalid

def Cell.loweredChars (c : Cell) : List Char := Text.lower c.display.toList

namespace Condition

def prepare (operator : Operator) (value : Operand) : Prepared :=
  match operator with
  | .equals | .contains => .text (Text.lower value.toText.toList)
  | .gt | .lt | .gte | .lte => .number value.toNumber
  | .oneOf =>
    match value with
    | .list vs => .set (vs.map Cell.loweredChars)
    | .scalar _ => .invalid
  | .between =>
    match value with
    | .list [low, high] => .range low.toNumber high.toNumber
    | _ => .invalid
  | .regex =>
    match Pattern.caseless? value.toText.toList with
    | some p => .pattern p
    | none => .invalid

/-- Does a cell that is there meet an operator with a prepared value? -/
def meets (cell : Cell) (operator : Operator) (value : Prepared) : Bool :=
  match operator, value with
  | .equals, .text t => cell.loweredChars == t
  | .contains, .text t => Text.occursIn t cell.loweredChars
  | .gt, .number n => n < cell.toNumber
  | .lt, .number n => cell.toNumber < n
  | .gte, .number n => n ≤ cell.toNumber
  | .lte, .number n => cell.toNumber ≤ n
  | .oneOf, .set ts => ts.any (· == cell.loweredChars)
  | .between, .range low high =>
    let n := cell.toNumber
    low ≤ n && n ≤ high
  | .regex, .pattern p => p.occursIn cell.loweredChars
  | _, _ => false

def passes (operator : Operator) (value : Prepared) : Option Cell → Bool
  | none => false
  | some .null => false
  | some cell => meets cell operator value

def holds (c : Condition) (cell : Option Cell) : Bool :=
  passes c.operator (prepare c.operator c.value) cell

/-- A missing or an empty cell meets no condition. -/
theorem holds_eq_false_of_empty (c : Condition) {cell : Option Cell}
    (empty : cell = none ∨ cell = some .null) : c.holds cell = false := by
  obtain rfl | rfl := empty <;> rfl

/-- A condition whose value does not suit the operator holds of no cell. -/
theorem holds_eq_false_of_invalid {c : Condition}
    (isInvalid : prepare c.operator c.value = .invalid) (cell : Option Cell) :
    c.holds cell = false := by
  rw [holds, isInvalid]
  match cell with
  | none | some .null => rfl
  | some (.bool _) | some (.number _) | some (.text _) => cases c.operator <;> rfl

end Condition

end TableQuery
