import TableQuery.Cell
import TableQuery.Text.Case

/-! # Plans

What a query asks of a table: which rows, in which order, and how many. A plan holds a
filter, a sort and a limit, each if the query has one, and says in words what they are.
-/

namespace TableQuery

inductive Operator where
  | equals
  | contains
  | gt
  | lt
  | gte
  | lte
  | oneOf
  | between
  | regex
deriving DecidableEq, Repr, Inhabited

namespace Operator

def name : Operator → String
  | .equals => "equals"
  | .contains => "contains"
  | .gt => "gt"
  | .lt => "lt"
  | .gte => "gte"
  | .lte => "lte"
  | .oneOf => "in"
  | .between => "between"
  | .regex => "regex"

def ofText? (s : String) : Option Operator :=
  match Text.lowered s with
  | "equals" | "eq" | "=" | "==" => some .equals
  | "contains" | "like" => some .contains
  | "gt" | ">" => some .gt
  | "lt" | "<" => some .lt
  | "gte" | ">=" => some .gte
  | "lte" | "<=" => some .lte
  | "in" => some .oneOf
  | "between" => some .between
  | "regex" => some .regex
  | _ => none

/-- Are cell and value compared as numbers? -/
def isNumeric : Operator → Bool
  | .gt | .lt | .gte | .lte | .between => true
  | _ => false

end Operator

/-- The value of a condition: one cell or a list of cells. -/
inductive Operand where
  | scalar (value : Cell)
  | list (values : List Cell)
deriving BEq, Inhabited

namespace Operand

/-- The text of an item of a list, where an empty cell leaves no text. -/
def itemText : Cell → String
  | .null => ""
  | c => c.display

def toText : Operand → String
  | .scalar v => v.display
  | .list vs => String.intercalate "," (vs.map itemText)

/-- The number that a value counts as; a list is no number. -/
def toNumber : Operand → Float
  | .scalar v => v.toNumber
  | .list _ => notANumber

end Operand

structure Condition where
  column : String
  operator : Operator
  value : Operand
deriving BEq, Inhabited

inductive Junction where
  | all
  | any
deriving DecidableEq, Repr, Inhabited

def Junction.name : Junction → String
  | .all => "AND"
  | .any => "OR"

/-- Conditions and how they are combined. Without conditions, every row passes. -/
structure Filter where
  conditions : List Condition
  junction : Junction
deriving BEq, Inhabited

namespace Filter

/-- Does every row pass for want of conditions? -/
def isIdentity (f : Filter) : Bool := f.conditions.isEmpty

end Filter

inductive SortOrder where
  | asc
  | desc
deriving DecidableEq, Repr, Inhabited

namespace SortOrder

def name : SortOrder → String
  | .asc => "asc"
  | .desc => "desc"

def ofText? (s : String) : Option SortOrder :=
  match Text.lowered s with
  | "asc" | "ascending" => some .asc
  | "desc" | "descending" => some .desc
  | _ => none

def flipped : SortOrder → SortOrder
  | .asc => .desc
  | .desc => .asc

/-- An ascending comparison seen in this direction. -/
def apply : SortOrder → Ordering → Ordering
  | .asc, o => o
  | .desc, o => o.swap

end SortOrder

structure SortKey where
  column : String
  order : SortOrder
deriving DecidableEq, Repr, Inhabited

structure Plan where
  query : String
  filter : Option Filter
  sort : Option SortKey
  limit : Option Nat
  explanation : String
deriving BEq, Inhabited

namespace Plan

/-- The words for a plan that does nothing. -/
def showAllExplanation : String := "Showing all results"

/-- The plan that leaves a table as it is. -/
def showAll (query : String) : Plan := ⟨query, none, none, none, showAllExplanation⟩

def conditionCount (p : Plan) : Nat := (p.filter.map (·.conditions.length)).getD 0

end Plan

end TableQuery
