import TableQuery.Proofs.Page.Exact
import TableQuery.Proofs.Session.History
import TableQuery.Proofs.Session.Paging

/-! # The page that is shown

Whoever only turns to pages that there are is never shown a page behind the last one.  A sort
changes the order of the rows and not their number, and whatever else can change how many pages
there are goes back to the first page.
-/

namespace TableQuery

/-- The number of rows that a plan leaves does not depend on the sort it falls back on. -/
theorem Outcome.matchedCount_execute (rows : List Row) (plan : Plan) (fallback : Option SortKey) :
    (execute rows plan fallback).matchedCount =
      countWithin plan.limit (plan.matching rows).length := by
  rw [execute_eq_ofPlan]
  exact length_entries_ofPlan rows { plan with sort := plan.sort.or fallback }

namespace Session

variable {s : Session}

/-- Is the page that is shown one of the pages, or else the first of none? -/
def OnPage (s : Session) : Prop := s.pageIndex.toNat < max 1 s.totalPages

/-- May the action be done?  A page that is turned to must be one of the pages, or the first. -/
def Action.Allowed (s : Session) : Action → Prop
  | .setPage index => index.toNat < max 1 s.totalPages
  | _ => True

def Allows : Session → List Action → Prop
  | _, [] => True
  | s, action :: later => action.Allowed s ∧ Allows (action.apply s) later

/-! ## One action -/

theorem onPage_of_first (isFirst : s.pageIndex = 0) : s.OnPage := by
  rw [OnPage, isFirst]
  exact Nat.lt_of_lt_of_le Nat.one_pos (Nat.le_max_left _ _)

theorem totalPages_toggleSort (s : Session) (column : String) :
    (s.toggleSort column).totalPages = s.totalPages := by
  -- Both plans leave the same rows, and only fall back on different sorts.
  have sameCount : (s.toggleSort column).view.matchedCount = s.view.matchedCount := by
    rw [view, view, Outcome.matchedCount_execute, Outcome.matchedCount_execute]
    rfl
  rw [totalPages, sameCount]
  rfl

theorem OnPage.apply (onPage : s.OnPage) {action : Action} (allowed : action.Allowed s) :
    (action.apply s).OnPage := by
  cases action with
  | runQuery text =>
    simp only [Action.apply, runQuery]
    split
    case isTrue => exact onPage
    case isFalse => exact onPage_of_first rfl
  | toggleSort column =>
    rw [Action.apply, OnPage, totalPages_toggleSort]
    exact onPage
  | clear => exact onPage_of_first rfl
  | setPage index => exact allowed
  | setPageSize size => exact onPage_of_first rfl

/-! ## A history -/

theorem OnPage.after (onPage : s.OnPage) {history : List Action} (allows : s.Allows history) :
    (s.after history).OnPage := by
  induction history generalizing s with
  | nil => exact onPage
  | cons action later inductionHypothesis =>
    exact inductionHypothesis (onPage.apply allows.1) allows.2

theorem length_entries_view_le (s : Session) : s.view.entries.length ≤ s.rows.length := by
  rw [view, Outcome.execute_eq_ofPlan]
  exact Outcome.length_entries_ofPlan_le _ _

theorem OnPage.isEmpty_page_iff (onPage : s.OnPage) (fits : s.rows.length < UInt64.size) :
    s.page.isEmpty = true ↔ s.view.entries = [] := by
  have fits' : s.view.entries.length < UInt64.size :=
    Nat.lt_of_le_of_lt s.length_entries_view_le fits
  rw [Page.isEmpty, List.isEmpty_iff]
  constructor
  · intro noItems
    by_contra someRows
    have isSome : 0 < s.totalPages :=
      Page.lt_pageCount_iff.2 (by rw [Nat.zero_mul]; exact List.length_pos_iff.2 someRows)
    have within : s.pageIndex.toNat < s.totalPages := by
      rw [OnPage] at onPage
      omega
    exact Page.items_of_ne_nil fits' within noItems
  · intro noRows
    rw [page, Outcome.page, noRows, Page.items_of (by decide), List.drop_nil, List.take_nil]

/-- Whatever is done in whatever order, as long as no page is turned to that there is not, the
    page that is shown is one of the pages, and it is empty only if there are no rows to show. -/
theorem onPage_after_start (rows : List Row) (schema : Schema) (size : UInt64)
    {history : List Action} (allows : ((start rows schema).withPageSize size).Allows history) :
    (((start rows schema).withPageSize size).after history).OnPage ∧
      (rows.length < UInt64.size →
        ((((start rows schema).withPageSize size).after history).page.isEmpty = true ↔
          (((start rows schema).withPageSize size).after history).view.entries = [])) := by
  have onPage := OnPage.after (onPage_of_first rfl) allows
  refine ⟨onPage, fun fits => onPage.isEmpty_page_iff ?_⟩
  rw [after_eq_told]
  exact fits

/-- The last of three rows stands on the second page of two, also when the rows are sorted. -/
theorem onPage_after_start_second_page :
    let first := (start [Row.empty, Row.empty, Row.empty] ⟨[], 3, []⟩).withPageSize 2
    let history := [.setPage 1, .runQuery " ", .toggleSort "total"]
    first.Allows history ∧ (first.after history).pageIndex = 1 ∧ (first.after history).OnPage ∧
      ((first.after history).page.isEmpty = true ↔ (first.after history).view.entries = []) := by
  have allows : ((start [Row.empty, Row.empty, Row.empty] ⟨[], 3, []⟩).withPageSize 2).Allows
      [.setPage 1, .runQuery " ", .toggleSort "total"] :=
    ⟨by show 1 < max 1 _; decide, trivial, trivial, trivial⟩
  obtain ⟨onPage, isEmpty_iff⟩ := onPage_after_start _ _ _ allows
  exact ⟨allows, rfl, onPage, isEmpty_iff (by decide)⟩

end Session

end TableQuery
