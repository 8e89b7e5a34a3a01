import TableQuery.Proofs.Outcome.Selection
import TableQuery.Proofs.Page.Partition
import TableQuery.Session

/-! # Paging through a session

A session in which one query was run shows the result of the query, and its pages are that
result, one page behind the other.
-/

namespace TableQuery

theorem Plan.length_matching_le (plan : Plan) (rows : List Row) :
    (plan.matching rows).length ≤ rows.length := by
  have fewer := List.length_filter_le (fun p => rows[p]?.any fun row => decide (plan.Wants row))
    (List.range rows.length)
  rwa [List.length_range] at fewer

theorem Outcome.length_entries_ofPlan_le (rows : List Row) (plan : Plan) :
    (ofPlan rows plan).entries.length ≤ rows.length := by
  have few := plan.length_matching_le rows
  rw [length_entries_ofPlan]
  cases plan.limit with
  | none => exact few
  | some n =>
    rw [countWithin]
    omega

namespace Session

theorem flatMap_page (s : Session) (fits : s.view.entries.length < UInt64.size) :
    ((List.range s.totalPages).flatMap fun i => (s.setPage (UInt64.ofNat i)).page.items) =
      s.view.entries :=
  Page.flatMap_items_of fits s.pageSize

theorem totalPages_le (s : Session) : s.totalPages ≤ s.view.entries.length :=
  Page.pageCount_le _ _

/-- Is what a session shows the result, page by page? -/
structure PagesThrough (s : Session) (result : Outcome) : Prop where
  entries_eq : s.view.entries = result.entries
  filteredCount_eq : s.view.filteredCount = result.filteredCount
  matchedCount_eq : s.view.matchedCount = result.matchedCount
  explanation_eq : s.view.plan.explanation = result.plan.explanation
  pages_eq : ∀ index, (s.setPage index).page.pages = s.totalPages
  items_eq : ((List.range s.totalPages).flatMap fun i =>
    (s.setPage (UInt64.ofNat i)).page.items) = result.entries
  /-- The rows are all printed where pages are numbered from one. -/
  rows_eq : ((List.range s.totalPages).flatMap fun i =>
    rowsOf (s.setPage (Word.before (UInt64.ofNat (i + 1)))).page.items) = rowsOf result.entries
  once : (positions result.entries).Nodup

/-- A fresh session shows the result of the query that is run, but that a blank text is dropped. -/
theorem view_runQuery (rows : List Row) (schema : Schema) (text : String) (size : UInt64) :
    (((start rows schema).withPageSize size).runQuery text).view =
      { Outcome.ofQuery rows schema text with
        plan := (((start rows schema).withPageSize size).runQuery text).plan } := by
  rw [Outcome.ofQuery, Outcome.planOf, runQuery]
  split <;> rfl

theorem explanation_runQuery (rows : List Row) (schema : Schema) (text : String) (size : UInt64) :
    (((start rows schema).withPageSize size).runQuery text).plan.explanation =
      (Outcome.ofQuery rows schema text).plan.explanation := by
  rw [Outcome.ofQuery, Outcome.planOf, runQuery]
  split <;> rfl

/-- A fresh session in which a query was run pages through the result of that query. -/
theorem runQuery_pagesThrough {rows : List Row} (schema : Schema) (text : String) (size : UInt64)
    (fits : rows.length < UInt64.size) :
    (((start rows schema).withPageSize size).runQuery text).PagesThrough
      (Outcome.ofQuery rows schema text) := by
  have isView := view_runQuery rows schema text size
  have isExplanation := explanation_runQuery rows schema text size
  generalize ((start rows schema).withPageSize size).runQuery text = s at *
  have entries_eq : s.view.entries = (Outcome.ofQuery rows schema text).entries := by rw [isView]
  have few : s.view.entries.length < UInt64.size := by
    rw [entries_eq]
    exact Nat.lt_of_le_of_lt (Outcome.length_entries_ofPlan_le rows _) fits
  constructor
  case entries_eq => exact entries_eq
  case filteredCount_eq => rw [isView]
  case matchedCount_eq => rw [isView]
  case explanation_eq => rw [isView, isExplanation]
  case pages_eq =>
    intro index
    show pageCount s.view.entries.length (max s.pageSize 1) =
      pageCount s.view.entries.length s.pageSize
    rw [pageCount, pageCount, ← Page.width, ← Page.width, Page.width_max_one]
  case items_eq => rw [← entries_eq, s.flatMap_page few]
  case rows_eq =>
    have numbers : ∀ i ∈ List.range s.totalPages,
        rowsOf (s.setPage (Word.before (UInt64.ofNat (i + 1)))).page.items =
          rowsOf (s.setPage (UInt64.ofNat i)).page.items := by
      intro i member
      have small := List.mem_range.1 member
      have bound := s.totalPages_le
      rw [Word.before_succ (by omega)]
    rw [List.flatMap_congr numbers, ← entries_eq, ← s.flatMap_page few]
    exact (List.map_flatMap ..).symm
  case once =>
    rw [Outcome.ofQuery, Outcome.positions_ofPlan]
    exact (Outcome.nodup_inOrder_matching rows _).sublist (List.take_sublist _ _)

/-- Three rows on pages of two, asked for with a blank text. -/
theorem runQuery_pagesThrough_two_pages :
    let session := ((start [Row.empty, Row.empty, Row.empty] ⟨[], 3, []⟩).withPageSize 2).runQuery " "
    [Row.empty, Row.empty, Row.empty].length < UInt64.size ∧ session.totalPages = 2 ∧
      session.PagesThrough (Outcome.ofQuery [Row.empty, Row.empty, Row.empty] ⟨[], 3, []⟩ " ") :=
  ⟨by decide, by decide, runQuery_pagesThrough ⟨[], 3, []⟩ " " 2 (by decide)⟩

end Session

end TableQuery
