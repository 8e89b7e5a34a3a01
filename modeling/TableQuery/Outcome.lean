import TableQuery.Page
import TableQuery.Sorting
import TableQuery.Question

/-! # Running plans

A plan is run over the rows of a dataset: filter, then stable sort, then limit. The
result names rows by their positions and changes none.
-/

namespace TableQuery

structure Outcome where
  plan : Plan
  entries : List Entry
  /-- How many rows passed the filter. -/
  filteredCount : Nat
  /-- How many rows the limit left. -/
  matchedCount : Nat

namespace Outcome

/-- The rows as they are left by a sort, if there is one. -/
def arranged (sort : Option SortKey) (entries : List Entry) : List Entry :=
  match sort with
  | some key => key.arrange entries
  | none => entries

def limited (limit : Option Nat) (entries : List Entry) : List Entry :=
  match limit with
  | some n => entries.take n
  | none => entries

def filtered (filter : Option Filter) (entries : List Entry) : List Entry :=
  match filter with
  | some f => f.keep entries
  | none => entries

/-- Run a plan; a plan without a sort of its own sorts by the fallback. -/
def execute (rows : List Row) (plan : Plan) (fallback : Option SortKey) : Outcome :=
  let kept := filtered plan.filter (Entry.ofRows rows)
  let shown := limited plan.limit (arranged (plan.sort <|> fallback) kept)
  ⟨plan, shown, kept.length, shown.length⟩

def ofPlan (rows : List Row) (plan : Plan) : Outcome := execute rows plan none

/-- The plan of a query text; a blank text asks for everything. -/
def planOf (schema : Schema) (text : String) : Plan :=
  if Text.allBlank text.toList then Plan.showAll text else Question.plan schema text

def ofQuery (rows : List Row) (schema : Schema) (text : String) : Outcome :=
  ofPlan rows (planOf schema text)

def page (o : Outcome) (index size : UInt64) : Page Entry := Page.of o.entries index size

end Outcome

end TableQuery
