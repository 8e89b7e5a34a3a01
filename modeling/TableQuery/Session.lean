import TableQuery.Outcome

/-! # Sessions

A table that is being looked at: its rows and schema, the query that applies, the sort
that was asked for at a column's head, and the page that is shown.
-/

namespace TableQuery

/-- The state of a table that is being looked at. -/
structure Session where
  rows : List Row
  schema : Schema
  /-- The plan of the query that applies. -/
  active : Option Plan
  /-- The sort that was asked for at a column's head. -/
  headerSort : Option SortKey
  pageIndex : UInt64
  pageSize : UInt64

namespace Session

def defaultPageSize : UInt64 := 10

def start (rows : List Row) (schema : Schema) : Session :=
  ⟨rows, schema, none, none, 0, defaultPageSize⟩

/-- The session with another page size and the same page. -/
def withPageSize (s : Session) (size : UInt64) : Session := { s with pageSize := max size 1 }

/-- Apply a query and go to the first page; a blank text changes nothing. -/
def runQuery (s : Session) (text : String) : Session :=
  if Text.allBlank text.toList then s
  else { s with active := some (Question.plan s.schema text), pageIndex := 0 }

/-- The sort behind a click on a column's head: the same column turns around, another one
    begins in ascending order. -/
def toggled (current : Option SortKey) (column : String) : SortKey :=
  match current with
  | some key => if key.column = column then ⟨column, key.order.flipped⟩ else ⟨column, .asc⟩
  | none => ⟨column, .asc⟩

def toggleSort (s : Session) (column : String) : Session :=
  { s with headerSort := some (toggled s.headerSort column) }

/-- Drop query and sort and go to the first page. -/
def clear (s : Session) : Session := { s with active := none, headerSort := none, pageIndex := 0 }

def setPage (s : Session) (index : UInt64) : Session := { s with pageIndex := index }

/-- Choose a page size, at least one, and go to the first page. -/
def setPageSize (s : Session) (size : UInt64) : Session :=
  { s with pageSize := max size 1, pageIndex := 0 }

def plan (s : Session) : Plan := s.active.getD (Plan.showAll "")

def view (s : Session) : Outcome := Outcome.execute s.rows s.plan s.headerSort

def page (s : Session) : Page Entry := s.view.page s.pageIndex s.pageSize

def totalPages (s : Session) : Nat := pageCount s.view.matchedCount s.pageSize

end Session

end TableQuery
