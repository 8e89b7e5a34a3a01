import Mathlib
import TableQuery.Proofs.Page.Partition

/-! # Pages in unbounded arithmetic

What a page holds is told by the positions of its items, in numbers without a greatest one.
The bounds that are computed in words are those numbers, cut off at the length of the list, so
a page is a slice that lies within its list, and only the last page can hold fewer items than
its size says.
-/

namespace TableQuery.Page

variable {α : Type} {items : List α} {index size : UInt64}

/-- The items whose positions lie between two bounds, the lower one included. -/
def between (low high : Nat) (items : List α) : List α :=
  (items.zipIdx.filter fun item => low ≤ item.2 && item.2 < high).map (·.1)

/-- Items that are counted from some position on are chosen as a slice. -/
theorem map_filter_zipIdx (items : List α) (low high start : Nat) :
    ((items.zipIdx start).filter fun item => low ≤ item.2 && item.2 < high).map (·.1) =
      (items.take (high - start)).drop (low - start) := by
  -- Each item that is passed moves both bounds of the slice down by one, to zero at the least.
  induction items generalizing start with
  | nil => simp
  | cons first rest inductionHypothesis =>
    have others := inductionHypothesis (start + 1)
    rw [List.zipIdx_cons]
    by_cases below : start < high
    · obtain ⟨count, isCount⟩ : ∃ count, high - start = count + 1 := ⟨high - start - 1, by omega⟩
      have isCount' : high - (start + 1) = count := by omega
      rw [isCount'] at others
      rw [isCount, List.take_succ_cons]
      by_cases above : low ≤ start
      · have noDrop : low - start = 0 := by omega
        have noDrop' : low - (start + 1) = 0 := by omega
        rw [noDrop', List.drop_zero] at others
        rw [List.filter_cons_of_pos (by simp [above, below]), List.map_cons, others, noDrop,
          List.drop_zero]
      · have isDrop : low - start = (low - (start + 1)) + 1 := by omega
        rw [List.filter_cons_of_neg (by simp [above]), others, isDrop, List.drop_succ_cons]
    · have noTake : high - start = 0 := by omega
      have noTake' : high - (start + 1) = 0 := by omega
      rw [noTake', List.take_zero, List.drop_nil] at others
      rw [List.filter_cons_of_neg (by simp [below]), others, noTake, List.take_zero,
        List.drop_nil]

theorem between_eq (low high : Nat) (items : List α) :
    between low high items = (items.drop low).take (high - low) := by
  have chosen := map_filter_zipIdx items low high 0
  rw [Nat.sub_zero, Nat.sub_zero] at chosen
  rw [between, chosen, List.drop_take]

/-! ## How many pages there are -/

theorem pageCount_eq_ceil (total : Nat) (size : UInt64) :
    pageCount total size = ⌈(total : ℚ) / width size⌉₊ := by
  refine eq_of_forall_ge_iff fun count => ?_
  have positive : (0 : ℚ) < width size := Nat.cast_pos.2 (width_pos size)
  rw [pageCount_le_iff, Nat.ceil_le, div_le_iff₀ positive]
  exact_mod_cast Iff.rfl

theorem lt_pageCount_iff {total number : Nat} {size : UInt64} :
    number < pageCount total size ↔ number * width size < total := by
  rw [← Nat.not_le, pageCount_le_iff, Nat.not_le]

/-! ## How many items a page holds -/

theorem length_items_of (fits : items.length < UInt64.size) (index size : UInt64) :
    (Page.of items index size).items.length =
      min (width size) (items.length - index.toNat * width size) := by
  rw [items_of fits, List.length_take, List.length_drop]

theorem length_items_of_not_last (fits : items.length < UInt64.size)
    (follows : index.toNat + 1 < pageCount items.length size) :
    (Page.of items index size).items.length = width size := by
  have whole := lt_pageCount_iff.1 follows
  rw [Nat.succ_mul] at whole
  rw [length_items_of fits]
  omega

theorem items_of_ne_nil (fits : items.length < UInt64.size)
    (within : index.toNat < pageCount items.length size) :
    (Page.of items index size).items ≠ [] := by
  have some := lt_pageCount_iff.1 within
  have positive := width_pos size
  rw [← List.length_pos_iff, length_items_of fits]
  omega

theorem items_of_eq_nil (fits : items.length < UInt64.size)
    (beyond : pageCount items.length size ≤ index.toNat) :
    (Page.of items index size).items = [] := by
  have none := pageCount_le_iff.1 beyond
  rw [← List.length_eq_zero_iff, length_items_of fits]
  omega

/-! ## Exact pages -/

/-- Is this the page of that number and size, told in unbounded arithmetic? -/
structure IsExact (items : List α) (index size : UInt64) (page : Page α) : Prop where
  items_eq : page.items =
    between (index.toNat * width size) ((index.toNat + 1) * width size) items
  /-- The slice begins and ends where it does without a greatest number. -/
  start_eq : startOf items.length index size = min (index.toNat * width size) items.length
  stop_eq : stopOf items.length index size = min ((index.toNat + 1) * width size) items.length
  /-- The slice lies within the list. -/
  slice_eq : page.items = (items.drop (startOf items.length index size)).take
    (stopOf items.length index size - startOf items.length index size)
  start_le : startOf items.length index size ≤ stopOf items.length index size
  stop_le : stopOf items.length index size ≤ items.length
  pages_eq : page.pages = ⌈(items.length : ℚ) / width size⌉₊
  total_eq : page.total = items.length
  index_eq : page.index = index
  size_eq : page.size.toNat = width size

theorem of_isExact (fits : items.length < UInt64.size) (index size : UInt64) :
    IsExact items index size (Page.of items index size) := by
  have start_eq := startOf_eq fits index size
  have stop_eq := stopOf_eq fits index size
  constructor
  case items_eq =>
    rw [items_of fits, between_eq, Nat.succ_mul, Nat.add_sub_cancel_left]
  case start_eq => exact start_eq
  case stop_eq => exact stop_eq
  case slice_eq => exact items_eq_slice items index size
  case start_le =>
    rw [start_eq, stop_eq, Nat.succ_mul]
    omega
  case stop_le => exact Nat.min_le_right _ _
  case pages_eq =>
    rw [← pageCount_eq_ceil]
    exact pageCount_max_one items.length size
  case total_eq => rfl
  case index_eq => rfl
  case size_eq => exact toNat_max_one size

/-- Do the pages of that size make up the list, all full but the last one, which is not empty,
    and none with items behind it? -/
structure Partitions (items : List α) (size : UInt64) : Prop where
  flatMap_eq : ((List.range (pageCount items.length size)).flatMap fun i =>
    (Page.of items (UInt64.ofNat i) size).items) = items
  full : ∀ index : UInt64, index.toNat + 1 < pageCount items.length size →
    (Page.of items index size).items.length = width size
  last : ∀ index : UInt64, index.toNat + 1 = pageCount items.length size →
    1 ≤ (Page.of items index size).items.length ∧
      (Page.of items index size).items.length ≤ width size
  beyond : ∀ index : UInt64, pageCount items.length size ≤ index.toNat →
    (Page.of items index size).items = []

theorem partitions (fits : items.length < UInt64.size) (size : UInt64) :
    Partitions items size where
  flatMap_eq := flatMap_items_of fits size
  full _ follows := length_items_of_not_last fits follows
  last index isLast := by
    have within : index.toNat < pageCount items.length size := by omega
    refine ⟨List.length_pos_iff.2 (items_of_ne_nil fits within), ?_⟩
    rw [length_items_of fits]
    exact Nat.min_le_left _ _
  beyond _ behind := items_of_eq_nil fits behind

/-- The pages of a list whose length is a machine word are exact, whatever their numbers and their
    size, and make up the list. -/
theorem of_isExact_and_partitions (fits : items.length < UInt64.size) (size : UInt64) :
    (∀ index, IsExact items index size (Page.of items index size)) ∧ Partitions items size ∧
      ∀ total, pageCount total size = ⌈(total : ℚ) / width size⌉₊ :=
  ⟨fun index => of_isExact fits index size, partitions fits size,
    fun total => pageCount_eq_ceil total size⟩

/-- Twice the number of this page is beyond the greatest word by one, and still it is empty. -/
theorem of_isExact_and_partitions_beyond :
    [7, 8, 9].length < UInt64.size ∧ pageCount [7, 8, 9].length 2 = 2 ∧
      (∀ index, IsExact [7, 8, 9] index 2 (Page.of [7, 8, 9] index 2)) ∧
      (Page.of [7, 8, 9] 0x8000000000000000 2).items = [] := by
  have fits : [7, 8, 9].length < UInt64.size := by decide
  obtain ⟨exactPages, partitions, -⟩ := of_isExact_and_partitions fits 2
  exact ⟨fits, by decide, exactPages, partitions.beyond _ (by decide)⟩

end TableQuery.Page
