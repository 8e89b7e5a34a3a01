import Mathlib.Data.List.DropRight
import TableQuery.Proofs.Outcome.Selection
import TableQuery.Session

/-! # What a session remembers

A session is what its history makes of it: every part of its state is told by the last of those
actions that count for it.  Queries and sorts count since everything was dropped for the last
time, pages since the first page was gone to, and page sizes forever.
-/

namespace TableQuery

theorem Outcome.execute_eq_ofPlan (rows : List Row) (plan : Plan) (fallback : Option SortKey) :
    execute rows plan fallback =
      { ofPlan rows { plan with sort := plan.sort.or fallback } with plan := plan } := by
  simp [ofPlan, execute]

namespace Session

/-- What can be done with a table that is being looked at. -/
inductive Action where
  | runQuery (text : String)
  | toggleSort (column : String)
  | clear
  | setPage (index : UInt64)
  | setPageSize (size : UInt64)

namespace Action

@[simp] def text? : Action → Option String
  | .runQuery text => if Text.allBlank text.toList then none else some text
  | _ => none

@[simp] def column? : Action → Option String
  | .toggleSort column => some column
  | _ => none

@[simp] def index? : Action → Option UInt64
  | .setPage index => some index
  | _ => none

@[simp] def size? : Action → Option UInt64
  | .setPageSize size => some size
  | _ => none

@[simp] def isClear : Action → Bool
  | .clear => true
  | _ => false

@[simp] def turnsBack (action : Action) : Bool :=
  action.text?.isSome || action.isClear || action.size?.isSome

@[simp] def apply (s : Session) : Action → Session
  | .runQuery text => s.runQuery text
  | .toggleSort column => s.toggleSort column
  | .clear => s.clear
  | .setPage index => s.setPage index
  | .setPageSize size => s.setPageSize size

end Action

/-- The session after a history, whose first action was the first one. -/
def after (s : Session) (history : List Action) : Session := history.foldl Action.apply s

/-! ## Parts of a history -/

/-- The actions since query and sort were dropped for the last time. -/
def sinceClear (history : List Action) : List Action := history.rtakeWhile (!·.isClear)

/-- The actions since the first page was gone to for the last time. -/
def sinceTurnedBack (history : List Action) : List Action := history.rtakeWhile (!·.turnsBack)

variable {α : Type} {history : List Action} {action : Action}

/-- What the last action of a kind says. -/
def latest? (said? : Action → Option α) (history : List Action) : Option α :=
  (history.filterMap said?).getLast?

/-- How many of the last clicks on end were on the head of the column. -/
def timesOnEnd (clicked : List String) (column : String) : Nat :=
  (clicked.rtakeWhile (· == column)).length

/-- The sort that clicks on heads of columns ask for: it is on the last of them, and ascending
    if that one was clicked an odd number of times on end. -/
def sortOf? (clicked : List String) : Option SortKey :=
  clicked.getLast?.map fun column =>
    ⟨column, if timesOnEnd clicked column % 2 = 1 then .asc else .desc⟩

theorem sinceClear_concat : sinceClear (history ++ [action]) =
    if action.isClear then [] else sinceClear history ++ [action] := by
  rw [sinceClear, List.rtakeWhile_concat]
  cases action.isClear <;> rfl

theorem sinceTurnedBack_concat : sinceTurnedBack (history ++ [action]) =
    if action.turnsBack then [] else sinceTurnedBack history ++ [action] := by
  rw [sinceTurnedBack, List.rtakeWhile_concat]
  cases action.turnsBack <;> rfl

@[simp] theorem latest?_nil (said? : Action → Option α) : latest? said? [] = none := rfl

theorem latest?_concat (said? : Action → Option α) : latest? said? (history ++ [action]) =
    (said? action).or (latest? said? history) := by
  rw [latest?, latest?, List.filterMap_append]
  cases isSaid : said? action <;> simp [isSaid]

theorem timesOnEnd_concat_self (clicked : List String) (column : String) :
    timesOnEnd (clicked ++ [column]) column = timesOnEnd clicked column + 1 := by
  rw [timesOnEnd, List.rtakeWhile_concat_pos _ _ _ (by simp), List.length_append]
  rfl

theorem timesOnEnd_concat_of_ne (clicked : List String) {last column : String}
    (other : last ≠ column) : timesOnEnd (clicked ++ [last]) column = 0 := by
  rw [timesOnEnd, List.rtakeWhile_concat_neg _ _ _ (by simpa using other)]
  rfl

theorem sortOf?_concat (clicked : List String) (column : String) :
    sortOf? (clicked ++ [column]) = some (toggled (sortOf? clicked) column) := by
  rw [sortOf?, List.getLast?_concat, Option.map_some, timesOnEnd_concat_self]
  rcases List.eq_nil_or_concat' clicked with rfl | ⟨earlier, last, rfl⟩
  · rfl
  rw [sortOf?, List.getLast?_concat, Option.map_some, toggled]
  by_cases same : last = column
  · subst same
    rw [if_pos rfl]
    by_cases odd : timesOnEnd (earlier ++ [last]) last % 2 = 1
    · rw [if_pos odd, if_neg (by omega)]
      rfl
    · rw [if_neg odd, if_pos (by omega)]
      rfl
  · rw [if_neg same, timesOnEnd_concat_of_ne earlier same]
    rfl

/-! ## The state -/

variable {rows : List Row} {schema : Schema} {size : UInt64}

/-- The session that a history leads to, told by the parts of the history that count. -/
def told (rows : List Row) (schema : Schema) (size : UInt64) (history : List Action) : Session where
  rows := rows
  schema := schema
  active := (latest? Action.text? (sinceClear history)).map (Question.plan schema)
  headerSort := sortOf? ((sinceClear history).filterMap Action.column?)
  pageIndex := (latest? Action.index? (sinceTurnedBack history)).getD 0
  pageSize := max ((latest? Action.size? history).getD size) 1

theorem told_nil : told rows schema size [] = (start rows schema).withPageSize size := rfl

theorem told_concat (history : List Action) (action : Action) :
    told rows schema size (history ++ [action]) = action.apply (told rows schema size history) := by
  simp only [told, sinceClear_concat, sinceTurnedBack_concat, latest?_concat]
  cases action with
  | runQuery text =>
    by_cases blank : Text.allBlank text.toList = true
    · simp [latest?_concat, List.filterMap_cons, runQuery, blank]
    · simp [latest?_concat, List.filterMap_cons, runQuery, blank]
  | toggleSort column => simp [latest?_concat, toggleSort, sortOf?_concat]
  | clear => simp [clear, sortOf?]
  | setPage index => simp [latest?_concat, List.filterMap_cons, setPage]
  | setPageSize size => simp [latest?_concat, List.filterMap_cons, setPageSize]

theorem after_eq_told (history : List Action) :
    ((start rows schema).withPageSize size).after history = told rows schema size history := by
  induction history using List.reverseRecOn with
  | nil => exact told_nil.symm
  | append_singleton history action inductionHypothesis =>
    rw [told_concat, ← inductionHypothesis, after, List.foldl_append]
    rfl

/-! ## What is shown -/

/-- The sort that the shown rows are in: that of the query or else the one asked for at a column's
    head. -/
def shownSort (s : Session) : Option SortKey := (s.active.bind (·.sort)).or s.headerSort

open Outcome

/-- What the shown rows are: those that the query asks for, in the order of the sort and up to the
    limit of the query.  Without a query they are all rows. -/
structure Shows (s : Session) (result : Outcome) : Prop where
  filter_eq : result.plan.filter = s.active.bind (·.filter)
  limit_eq : result.plan.limit = s.active.bind (·.limit)
  ofDataset : OfDataset s.rows result.entries
  positions_eq : positions result.entries =
    (inOrder s.rows s.shownSort (result.plan.matching s.rows)).take
      (countWithin result.plan.limit (result.plan.matching s.rows).length)
  sorted : ∀ key, s.shownSort = some key →
    StablySorted s.rows key (result.plan.matching s.rows)
      (inOrder s.rows s.shownSort (result.plan.matching s.rows))
  filteredCount_eq : result.filteredCount = (result.plan.matching s.rows).length
  matchedCount_eq : result.matchedCount =
    countWithin result.plan.limit (result.plan.matching s.rows).length

theorem view_shows (s : Session) : s.Shows s.view := by
  have isSort : s.plan.sort.or s.headerSort = s.shownSort := by
    rw [plan, shownSort]
    cases s.active <;> rfl
  -- The view is that of a plan with the sort that is shown, whose filter and limit are the same.
  have isView : s.view =
      { ofPlan s.rows { s.plan with sort := s.shownSort } with plan := s.plan } := by
    rw [view, execute_eq_ofPlan, isSort]
  rw [isView]
  constructor
  case filter_eq => cases isActive : s.active <;> simp [plan, isActive, Plan.showAll]
  case limit_eq => cases isActive : s.active <;> simp [plan, isActive, Plan.showAll]
  case ofDataset =>
    intro entry member
    exact ofDataset_filtered s.rows _ entry (mem_filtered_of_mem_entries member)
  case positions_eq => exact positions_ofPlan s.rows { s.plan with sort := s.shownSort }
  case sorted =>
    intro key isKey
    rw [isKey]
    exact stablySorted_inOrder s.rows key (Plan.pairwise_matching s.plan s.rows)
  case filteredCount_eq => exact length_filtered s.rows { s.plan with sort := s.shownSort }
  case matchedCount_eq => exact length_entries_ofPlan s.rows { s.plan with sort := s.shownSort }

/-- Whatever is done in whatever order, the session is the one that its history tells, and what it
    shows is told by its query and its sort. -/
theorem after_eq_told_and_shows (rows : List Row) (schema : Schema) (size : UInt64)
    (history : List Action) :
    ((start rows schema).withPageSize size).after history = told rows schema size history ∧
      (((start rows schema).withPageSize size).after history).Shows
        (((start rows schema).withPageSize size).after history).view :=
  ⟨after_eq_told history, view_shows _⟩

/-- If nothing is said about the size of a page, it is the default one from the beginning. -/
example : start rows schema = (start rows schema).withPageSize defaultPageSize := rfl

end Session

end TableQuery
