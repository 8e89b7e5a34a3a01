import Mathlib
import TableQuery.Proofs.Sorting.Comparison
import TableQuery.Proofs.Sorting.Stability

/-! # Rows in the order of a column

Whatever a column holds, sorting by it keeps the rows and leaves no row behind a neighbour that
it is less than.  Where all its cells are texts, or all are something else that counts as a
number, this is the stable sort of the rows in both directions.
-/

namespace TableQuery

/-! ## Columns of one kind -/

/-- Is the cell no text, but one that counts as a number? -/
def Cell.IsMeasure : Cell → Prop
  | .text _ => False
  | .number x => x.isNaN = false
  | .null | .bool _ => True

/-- Does every row have a cell in the column, and are these all texts or all measures? -/
inductive IsUniform (column : String) (entries : List Entry) : Prop where
  | texts (present : ∀ entry ∈ entries, ∃ s, entry.row.get? column = some (.text s))
  | measures (present : ∀ entry ∈ entries, ∃ cell,
      entry.row.get? column = some cell ∧ cell.IsMeasure)

theorem Cell.isNaN_toNumber {cell : Cell} (measure : cell.IsMeasure) :
    cell.toNumber.isNaN = false := by
  cases cell with
  | null => rfl
  | bool b => cases b <;> rfl
  | number x => exact measure
  | text s => cases measure

theorem Cell.text?_eq_none {cell : Cell} (measure : cell.IsMeasure) : cell.text? = none := by
  cases cell with
  | text s => cases measure
  | null | bool _ | number _ => rfl

namespace MergeSort

/-! ## Comparisons that order -/

section

variable {α β : Type} {compare : α → α → Ordering} {items : List α}

/-- A comparison by what a function shows of the items orders them if that is ordered. -/
theorem orders_of_shown (shown : α → β) (compareShown : β → β → Ordering)
    [Std.TransCmp compareShown]
    (agree : ∀ a ∈ items, ∀ b ∈ items, compare a b = compareShown (shown a) (shown b)) :
    Orders compare items where
  swap := by
    intro a aMember b bMember
    rw [agree a aMember b bMember, agree b bMember a aMember]
    exact Std.OrientedCmp.eq_swap.symm
  trans := by
    intro a aMember b bMember c cMember
    rw [agree a aMember b bMember, agree b bMember c cMember, agree a aMember c cMember]
    exact Std.TransCmp.isLE_trans

theorem Orders.apply (orders : Orders compare items) (order : SortOrder) :
    Orders (fun a b => order.apply (compare a b)) items := by
  cases order with
  | asc => exact orders
  | desc =>
    constructor
    case swap =>
      intro a aMember b bMember
      exact congrArg Ordering.swap (orders.swap a aMember b bMember)
    case trans =>
      intro a aMember b bMember c cMember
      simp only [SortOrder.apply, orders.swap a aMember b bMember, orders.swap b bMember c cMember,
        orders.swap a aMember c cMember]
      exact fun le le' => orders.trans c cMember b bMember a aMember le' le

end

end MergeSort

namespace SortKey

open MergeSort

variable {key : SortKey} {entries : List Entry}

theorem orders_compareCells {column : String} (uniform : IsUniform column entries) :
    Orders (fun a b => compareCells (a.row.get? column) (b.row.get? column)) entries := by
  cases uniform with
  | texts present =>
    refine orders_of_shown (fun entry => (entry.row.cell column).display) compareText
      fun a aMember b bMember => ?_
    obtain ⟨s, isText⟩ := present a aMember
    obtain ⟨t, isText'⟩ := present b bMember
    simp [Row.cell, isText, isText', compareCells, Cell.display]
  | measures present =>
    refine orders_of_shown (fun entry => Double.placeOf (entry.row.cell column).toNumber)
      Double.comparePlaces fun a aMember b bMember => ?_
    obtain ⟨cell, isCell, measure⟩ := present a aMember
    obtain ⟨cell', isCell', measure'⟩ := present b bMember
    simp only [Row.cell, isCell, isCell', Option.getD_some]
    rw [compareCells_of_text?_eq_none (.inl (Cell.text?_eq_none measure)),
      compareNumbers_eq (Cell.isNaN_toNumber measure) (Cell.isNaN_toNumber measure')]

theorem orders_compareRows (uniform : IsUniform key.column entries) :
    Orders (fun a b => key.compareRows a.row b.row) entries :=
  (orders_compareCells uniform).apply key.order

/-- The merge sort makes the stable sort, and no other list is one, for every comparison of a
    total preorder.  So rows are sorted stably by a column of one kind, in both directions. -/
theorem stablySorts_iff_eq_sort :
    (∀ {α : Type} (compare : α → α → Ordering) [Std.TransCmp compare] (items sorted : List α),
      StablySorts compare items sorted ↔ sorted = MergeSort.sort compare items) ∧
    ∀ (key : SortKey) (entries sorted : List Entry), IsUniform key.column entries →
      (StablySorts (fun a b => key.compareRows a.row b.row) entries sorted ↔
        sorted = key.arrange entries) := by
  refine ⟨fun compare _ items sorted => ?_, fun key entries sorted uniform => ?_⟩
  · exact (orders_of_transCmp compare items).stablySorts_iff sorted
  · exact (orders_compareRows uniform).stablySorts_iff sorted

/-- An entry of a row with nothing but a total. -/
def totalEntry (position : Nat) (cell : Cell) : Entry := ⟨position, .ofList [("total", cell)]⟩

theorem stablySorts_iff_eq_sort_pairs_and_totals :
    StablySorts (compareOn Prod.fst) [(3, 'a'), (1, 'b'), (3, 'c'), (2, 'd'), (1, 'e')]
        [(1, 'b'), (1, 'e'), (2, 'd'), (3, 'a'), (3, 'c')] ∧
      IsUniform "total" [totalEntry 0 .null, totalEntry 1 (.number 1), totalEntry 2 (.bool true)] ∧
      StablySorts (fun a b => (SortKey.mk "total" .desc).compareRows a.row b.row)
        [totalEntry 0 .null, totalEntry 1 (.number 1), totalEntry 2 (.bool true)]
        [totalEntry 1 (.number 1), totalEntry 2 (.bool true), totalEntry 0 .null] := by
  have uniform : IsUniform "total"
      [totalEntry 0 .null, totalEntry 1 (.number 1), totalEntry 2 (.bool true)] := by
    refine .measures fun entry member => ?_
    simp only [List.mem_cons, List.not_mem_nil, or_false] at member
    rcases member with rfl | rfl | rfl
    · exact ⟨.null, rfl, trivial⟩
    · exact ⟨.number 1, rfl, rfl⟩
    · exact ⟨.bool true, rfl, trivial⟩
  refine ⟨(stablySorts_iff_eq_sort.1 (compareOn Prod.fst) _ _).2 ?_, uniform,
    (stablySorts_iff_eq_sort.2 ⟨"total", .desc⟩ _ _ uniform).2 ?_⟩
  · simp [MergeSort.sort, mergeAll, mergePairs, merge, compareOn, compare, compareOfLessAndEq]
  have oneFirst : (SortKey.mk "total" .desc).compareRows (totalEntry 1 (.number 1)).row
      (totalEntry 0 .null).row = .lt := by decide +kernel
  have trueFirst : (SortKey.mk "total" .desc).compareRows (totalEntry 2 (.bool true)).row
      (totalEntry 0 .null).row = .lt := by decide +kernel
  have same : (SortKey.mk "total" .desc).compareRows (totalEntry 2 (.bool true)).row
      (totalEntry 1 (.number 1)).row = .eq := by decide +kernel
  simp [arrange, MergeSort.sort, mergeAll, mergePairs, merge, oneFirst, trueFirst, same]

/-! ## Columns of any kind -/

/-- What a sort makes of rows, whatever they hold. -/
structure Arranges (key : SortKey) (given arranged : List Entry) : Prop where
  perm : arranged.Perm given
  /-- No row is less than its neighbour in front of it. -/
  neighbours : arranged.IsChain fun a b => key.compareRows b.row a.row ≠ .lt
  /-- Where no row is less than one before it, nothing moves. -/
  unmoved : (given.Pairwise fun a b => key.compareRows b.row a.row ≠ .lt) → arranged = given
  /-- Nothing moves by a column that no row has. -/
  unknown : (∀ entry ∈ given, entry.row.get? key.column = none) → arranged = given

theorem compareRows_swap (key : SortKey) (a b : Row) :
    (key.compareRows a b).swap = key.compareRows b a := by
  unfold compareRows
  rw [← SortOrder.apply_swap, compareCells_swap]

theorem compareRows_of_none {a b : Row} (missing : a.get? key.column = none) :
    key.compareRows a b = .eq := by
  rw [compareRows, missing]
  cases b.get? key.column <;> cases key.order <;> rfl

theorem arranges_arrange (key : SortKey) (entries : List Entry) :
    key.Arranges entries (key.arrange entries) := by
  have unmoved : (entries.Pairwise fun a b => key.compareRows b.row a.row ≠ .lt) →
      key.arrange entries = entries := fun ordered => MergeSort.sort_eq_self ordered
  constructor
  case perm => exact MergeSort.sort_perm _ entries
  case neighbours =>
    have chain : (key.arrange entries).IsChain
        (Follows (fun a b => key.compareRows a.row b.row) fun _ _ => True) :=
      MergeSort.isChain_sort entries (List.pairwise_of_forall fun _ _ => trivial)
    refine chain.imp fun a b follows => ?_
    cases follows with
    | inl less =>
      simp only at less
      rw [← key.compareRows_swap, less]
      decide
    | inr notLess => exact notLess.1
  case unmoved => exact unmoved
  case unknown =>
    intro missing
    refine unmoved (List.pairwise_of_forall_mem_list fun a aMember b bMember => ?_)
    rw [compareRows_of_none (missing b bMember)]
    decide

end SortKey

end TableQuery
