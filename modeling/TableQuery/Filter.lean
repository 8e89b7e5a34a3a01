import TableQuery.Condition
import TableQuery.Row

/-! # Choosing rows

A filter keeps the rows that meet all of its conditions, or one of them, in their order.
Rows of a dataset are chosen together with their positions, so that what was chosen can
be told from rows that look the same.
-/

namespace TableQuery

/-- A row together with its position in the dataset. -/
structure Entry where
  position : Nat
  row : Row

namespace Entry

/-- The rows of a dataset with their positions, counted from `n`. -/
def numberFrom (n : Nat) : List Row → List Entry
  | [] => []
  | r :: rest => ⟨n, r⟩ :: numberFrom (n + 1) rest

def ofRows (rows : List Row) : List Entry := numberFrom 0 rows

end Entry

def positions (entries : List Entry) : List Nat := entries.map (·.position)

def rowsOf (entries : List Entry) : List Row := entries.map (·.row)

namespace Filter

/-- The tests of a filter, with the values of its conditions made ready. -/
def tests (f : Filter) : List (Row → Bool) :=
  f.conditions.map fun c =>
    let value := Condition.prepare c.operator c.value
    fun row => Condition.passes c.operator value (row.get? c.column)

/-- Do all tests succeed, or one of them? -/
def combine (j : Junction) (tests : List (Row → Bool)) (row : Row) : Bool :=
  match j with
  | .all => tests.all fun t => t row
  | .any => tests.any fun t => t row

def accepts (f : Filter) (row : Row) : Bool :=
  f.isIdentity || combine f.junction f.tests row

def keep (f : Filter) (entries : List Entry) : List Entry :=
  if f.isIdentity then entries
  else
    let ts := f.tests
    entries.filter fun e => combine f.junction ts e.row

theorem keep_eq_filter (f : Filter) (entries : List Entry) :
    f.keep entries = entries.filter fun e => f.accepts e.row := by
  unfold keep accepts
  split
  · next identity =>
    simp only [identity, Bool.true_or]
    exact (List.filter_eq_self.2 fun _ _ => rfl).symm
  · next notIdentity => simp [notIdentity]

end Filter

end TableQuery
