import Mathlib
import TableQuery.Proofs.Outcome.Selection
import TableQuery.Proofs.Sorting.Arrangement

/-! # Sorting and filtering in either order

A stable sort stays one when items are taken out before and after it, and there is only one.
So where the cells of a column are of one kind, rows can be filtered before they are sorted by it
or after, and a filtered table shows its rows in the order of the whole table.
-/

namespace TableQuery

/-! ## Stable sorts -/

namespace MergeSort

variable {α : Type} {compare : α → α → Ordering} {items : List α}

theorem StablySorts.filter {given sorted : List α} (sorts : StablySorts compare given sorted)
    (test : α → Bool) : StablySorts compare (given.filter test) (sorted.filter test) where
  perm := sorts.perm.filter test
  ascending := sorts.ascending.filter test
  stable := by
    intro a member
    -- The items equal to `a` are taken out of each list in the same order, and then tested.
    rw [List.filter_comm, sorts.stable a (List.mem_of_mem_filter member), List.filter_comm]

theorem Orders.sort_filter (orders : Orders compare items) (test : α → Bool) :
    sort compare (items.filter test) = (sort compare items).filter test := by
  have others : Orders compare (items.filter test) :=
    orders.of_subset fun _ member => List.mem_of_mem_filter member
  exact ((others.stablySorts_iff _).1 (orders.stablySorts_sort.filter test)).symm

end MergeSort

/-! ## Rows -/

namespace SortKey

variable {key : SortKey} {entries : List Entry}

theorem arrange_filter (uniform : IsUniform key.column entries) (test : Entry → Bool) :
    key.arrange (entries.filter test) = (key.arrange entries).filter test :=
  (orders_compareRows uniform).sort_filter test

end SortKey

/-! ## Tables -/

namespace Outcome

theorem entries_execute_of_noLimit (rows : List Row) (plan : Plan) (fallback : Option SortKey)
    (noLimit : plan.limit = none) : (execute rows plan fallback).entries =
      arranged (plan.sort <|> fallback) (filtered plan.filter (Entry.ofRows rows)) := by
  simp only [execute, noLimit, limited]

/-- The rows of a plan are those of the same plan without a filter that pass the filter. -/
theorem entries_execute_eq_filtered {rows : List Row} {plan : Plan} {fallback : Option SortKey}
    {key : SortKey} (noLimit : plan.limit = none) (isSort : (plan.sort <|> fallback) = some key)
    (uniform : IsUniform key.column (Entry.ofRows rows)) :
    (execute rows plan fallback).entries =
      filtered plan.filter (execute rows { plan with filter := none } fallback).entries := by
  have whole := entries_execute_of_noLimit rows { plan with filter := none } fallback noLimit
  rw [isSort] at whole
  rw [entries_execute_of_noLimit rows plan fallback noLimit, isSort, whole, filtered_eq_filter,
    filtered_eq_filter]
  exact SortKey.arrange_filter uniform _

end Outcome

namespace SortKey

/-- Rows with cells of one kind in a column are sorted by it, in either direction, before they are
    filtered or after, with the same result.  So the rows of a plan with a filter stand as they
    do in the result of the plan without it, whether the sort is the plan's own or the one that
    takes its place. -/
theorem arrange_keep (key : SortKey) :
    (∀ (f : Filter) (entries : List Entry), IsUniform key.column entries →
      key.arrange (f.keep entries) = f.keep (key.arrange entries)) ∧
    ∀ (rows : List Row) (plan : Plan) (fallback : Option SortKey),
      plan.limit = none → (plan.sort <|> fallback) = some key →
      IsUniform key.column (Entry.ofRows rows) →
      ((Outcome.execute rows plan fallback).entries = Outcome.filtered plan.filter
        (Outcome.execute rows { plan with filter := none } fallback).entries) ∧
      (Outcome.execute rows plan fallback).entries.Sublist
        (Outcome.execute rows { plan with filter := none } fallback).entries := by
  refine ⟨fun f entries uniform => ?_, fun rows plan fallback noLimit isSort uniform => ?_⟩
  · rw [Filter.keep_eq_filter, Filter.keep_eq_filter]
    exact arrange_filter uniform _
  · have shown := Outcome.entries_execute_eq_filtered noLimit isSort uniform
    refine ⟨shown, ?_⟩
    rw [shown, Outcome.filtered_eq_filter]
    exact List.filter_sublist

/-- Of two orders from each of two cities, the greater ones stand as they do among all. -/
theorem arrange_keep_cities :
    let order (city : String) (total : Float) : Row :=
      .ofList [("city", .text city), ("total", .number total)]
    let rows := [order "Rome" 3, order "Bonn" 1, order "Rome" 1, order "Bonn" 3]
    let great : Filter := ⟨[⟨"total", .gt, .scalar (.number 2)⟩], .all⟩
    let plan : Plan := { Plan.showAll "" with filter := some great, sort := some ⟨"city", .desc⟩ }
    IsUniform "city" (Entry.ofRows rows) ∧ plan.limit = none ∧
      (plan.sort <|> none) = some ⟨"city", .desc⟩ ∧
      arrange ⟨"city", .desc⟩ (great.keep (Entry.ofRows rows)) =
        great.keep (arrange ⟨"city", .desc⟩ (Entry.ofRows rows)) ∧
      (Outcome.execute rows plan none).entries.Sublist
        (Outcome.execute rows { plan with filter := none } none).entries ∧
      positions (Outcome.execute rows plan none).entries = [0, 3] ∧
      positions (Outcome.execute rows { plan with filter := none } none).entries = [0, 2, 1, 3] := by
  intro order rows great plan
  have uniform : IsUniform "city" (Entry.ofRows rows) := by
    refine .texts fun entry member => ?_
    simp only [rows, Entry.ofRows, Entry.numberFrom, List.mem_cons, List.not_mem_nil,
      or_false] at member
    rcases member with rfl | rfl | rfl | rfl
    · exact ⟨"Rome", rfl⟩
    · exact ⟨"Bonn", rfl⟩
    · exact ⟨"Rome", rfl⟩
    · exact ⟨"Bonn", rfl⟩
  obtain ⟨commutes, tables⟩ := arrange_keep ⟨"city", .desc⟩
  exact ⟨uniform, rfl, rfl, commutes great _ uniform, (tables rows plan none rfl rfl uniform).2,
    by decide +kernel, by decide +kernel⟩

end SortKey

end TableQuery
