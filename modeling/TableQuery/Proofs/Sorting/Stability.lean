import Mathlib
import TableQuery.Proofs.Sorting.MergeSort

/-! # The stable sort

Where a comparison puts all items in order, the merge sort leaves them ascending, and those that
compare as equal stand as they were given.  There is only one such arrangement.
-/

namespace TableQuery.MergeSort

variable {α : Type}

/-- Does the comparison put the items in order, where some may come out as equal? -/
structure Orders (compare : α → α → Ordering) (items : List α) : Prop where
  swap : ∀ a ∈ items, ∀ b ∈ items, (compare a b).swap = compare b a
  trans : ∀ a ∈ items, ∀ b ∈ items, ∀ c ∈ items,
    (compare a b).isLE → (compare b c).isLE → (compare a c).isLE

/-- The items in ascending order, of which those that compare as equal stand as they were given. -/
structure StablySorts (compare : α → α → Ordering) (given sorted : List α) : Prop where
  perm : sorted.Perm given
  ascending : sorted.Pairwise fun a b => (compare a b).isLE
  stable : ∀ a ∈ given, (sorted.filter fun b => compare a b = .eq) =
    given.filter fun b => compare a b = .eq

section

variable {compare : α → α → Ordering} {items : List α}

theorem orders_of_transCmp (compare : α → α → Ordering) [Std.TransCmp compare] (items : List α) :
    Orders compare items where
  swap := fun _ _ _ _ => Std.OrientedCmp.eq_swap.symm
  trans := fun _ _ _ _ _ _ => Std.TransCmp.isLE_trans

theorem Orders.of_subset {others : List α} (orders : Orders compare items)
    (subset : ∀ a ∈ others, a ∈ items) : Orders compare others where
  swap := fun a aMember b bMember => orders.swap a (subset a aMember) b (subset b bMember)
  trans := fun a aMember b bMember c cMember =>
    orders.trans a (subset a aMember) b (subset b bMember) c (subset c cMember)

namespace Orders

theorem compare_self (orders : Orders compare items) {a : α} (aMember : a ∈ items) :
    compare a a = .eq := by
  have swapped := orders.swap a aMember a aMember
  cases same : compare a a with
  | eq => rfl
  | _ =>
    rw [same] at swapped
    cases swapped

variable (orders : Orders compare items) {a b c : α} (aMember : a ∈ items) (bMember : b ∈ items)
  (cMember : c ∈ items)

include orders aMember bMember

theorem isLE_iff : (compare a b).isLE ↔ compare b a ≠ .lt := by
  rw [← orders.swap a aMember b bMember]
  cases compare a b <;> decide

theorem eq_of_isLE (le : (compare a b).isLE) (ge : (compare b a).isLE) : compare a b = .eq := by
  rw [← orders.swap a aMember b bMember] at ge
  cases same : compare a b with
  | lt =>
    rw [same] at ge
    cases ge
  | eq => rfl
  | gt =>
    rw [same] at le
    cases le

theorem eq_symm (same : compare a b = .eq) : compare b a = .eq := by
  rw [← orders.swap a aMember b bMember, same]
  rfl

theorem isLE_of_follows {before : α → α → Prop} (follows : Follows compare before a b) :
    (compare a b).isLE := by
  rcases follows with less | ⟨notLess, -⟩
  · exact Ordering.isLE_of_eq_lt less
  · exact (orders.isLE_iff aMember bMember).2 notLess

include cMember

theorem eq_trans (first : compare a b = .eq) (second : compare b c = .eq) : compare a c = .eq := by
  refine orders.eq_of_isLE aMember cMember ?_ ?_
  · exact orders.trans a aMember b bMember c cMember (Ordering.isLE_of_eq_eq first)
      (Ordering.isLE_of_eq_eq second)
  · exact orders.trans c cMember b bMember a aMember
      (Ordering.isLE_of_eq_eq (orders.eq_symm bMember cMember second))
      (Ordering.isLE_of_eq_eq (orders.eq_symm aMember bMember first))

/-- What comes before something is no more than it, and equal to it only along with all between. -/
theorem follows_trans {before : α → α → Prop} (earlier : before a b → before b c → before a c)
    (first : Follows compare before a b) (second : Follows compare before b c) :
    Follows compare before a c := by
  have le := orders.isLE_of_follows aMember bMember first
  have le' := orders.isLE_of_follows bMember cMember second
  have whole := orders.trans a aMember b bMember c cMember le le'
  cases same : compare a c with
  | lt => exact .inl same
  | gt =>
    rw [same] at whole
    cases whole
  | eq =>
    have back := Ordering.isLE_of_eq_eq (orders.eq_symm aMember cMember same)
    have firstSame := orders.eq_of_isLE aMember bMember le
      (orders.trans b bMember c cMember a aMember le' back)
    have secondSame := orders.eq_of_isLE bMember cMember le'
      (orders.trans c cMember a aMember b bMember back le)
    rcases first with less | ⟨-, isEarlier⟩
    · rw [firstSame] at less
      cases less
    · rcases second with less | ⟨-, isEarlier'⟩
      · rw [secondSame] at less
        cases less
      · exact .inr ⟨(orders.isLE_iff aMember cMember).1 whole, earlier isEarlier isEarlier'⟩

end Orders

/-! ## The places of the items in order -/

/-- Compare the items at two places. -/
def compareAt (compare : α → α → Ordering) (items : List α) (i j : Fin items.length) : Ordering :=
  compare (items.get i) (items.get j)

/-- The places of a list, arranged by the items that stand there. -/
def places (compare : α → α → Ordering) (items : List α) : List (Fin items.length) :=
  sort (compareAt compare items) (List.finRange items.length)

theorem map_get_places (compare : α → α → Ordering) (items : List α) :
    (places compare items).map items.get = sort compare items := by
  have shown : (places compare items).map items.get =
      sort compare ((List.finRange items.length).map items.get) :=
    map_sort items.get _ fun _ _ _ _ => rfl
  rw [shown, List.map_get_finRange]

theorem Orders.places (orders : Orders compare items) :
    Orders (compareAt compare items) (List.finRange items.length) where
  swap := fun i _ j _ => orders.swap _ (items.get_mem i) _ (items.get_mem j)
  trans := fun i _ j _ k _ =>
    orders.trans _ (items.get_mem i) _ (items.get_mem j) _ (items.get_mem k)

/-- Of any two arranged places, the item at the first is less, or not greater and came first. -/
theorem Orders.pairwise_places (orders : Orders compare items) :
    (MergeSort.places compare items).Pairwise (Follows (compareAt compare items) (· < ·)) := by
  have isTrans : Trans (Follows (compareAt compare items) (· < ·))
      (Follows (compareAt compare items) (· < ·)) (Follows (compareAt compare items) (· < ·)) :=
    ⟨fun first second => orders.places.follows_trans (List.mem_finRange _) (List.mem_finRange _)
      (List.mem_finRange _) lt_trans first second⟩
  exact List.isChain_iff_pairwise.1
    (isChain_sort (List.finRange items.length) (List.pairwise_lt_finRange _))

theorem Orders.ascending_sort (orders : Orders compare items) :
    (sort compare items).Pairwise fun a b => (compare a b).isLE := by
  rw [← map_get_places, List.pairwise_map]
  exact orders.pairwise_places.imp fun follows =>
    orders.places.isLE_of_follows (List.mem_finRange _) (List.mem_finRange _) follows

/-- Places whose items compare as equal to one item stay in their order. -/
theorem Orders.filter_places (orders : Orders compare items) {a : α} (aMember : a ∈ items) :
    ((MergeSort.places compare items).filter fun i => compare a (items.get i) = .eq) =
      (List.finRange items.length).filter fun i => compare a (items.get i) = .eq := by
  have ascending : ((MergeSort.places compare items).filter fun i =>
      compare a (items.get i) = .eq).Pairwise (· < ·) := by
    refine (orders.pairwise_places.filter _).imp_of_mem fun {i j} iMember jMember follows => ?_
    have isEqual := of_decide_eq_true (List.mem_filter.1 iMember).2
    have isEqual' := of_decide_eq_true (List.mem_filter.1 jMember).2
    have same : compareAt compare items i j = .eq := orders.eq_trans (items.get_mem i) aMember
      (items.get_mem j) (orders.eq_symm aMember (items.get_mem i) isEqual) isEqual'
    rcases follows with less | ⟨-, earlier⟩
    · rw [same] at less
      cases less
    · exact earlier
  refine List.Perm.eq_of_pairwise (fun i j _ _ lt gt => absurd gt lt.asymm) ascending
    ((List.pairwise_lt_finRange _).filter _) ?_
  exact (sort_perm _ _).filter _

theorem Orders.stablySorts_sort (orders : Orders compare items) :
    StablySorts compare items (sort compare items) where
  perm := sort_perm compare items
  ascending := orders.ascending_sort
  stable := by
    intro a aMember
    calc ((sort compare items).filter fun b => compare a b = .eq)
      _ = ((MergeSort.places compare items).filter fun i => compare a (items.get i) = .eq).map
          items.get := by
        rw [← map_get_places, List.filter_map]
        rfl
      _ = ((List.finRange items.length).filter fun i => compare a (items.get i) = .eq).map
          items.get := by
        rw [orders.filter_places aMember]
      _ = ((List.finRange items.length).map items.get).filter fun b => compare a b = .eq := by
        rw [List.filter_map]
        rfl
      _ = items.filter fun b => compare a b = .eq := by
        rw [List.map_get_finRange]

/-! ## There is no other one -/

/-- Ascending lists in which the items that compare as equal stand alike are the same. -/
theorem Orders.eq_of_ascending {sorted other : List α} (orders : Orders compare sorted)
    (perm : sorted.Perm other) (ascending : sorted.Pairwise fun a b => (compare a b).isLE)
    (ascending' : other.Pairwise fun a b => (compare a b).isLE)
    (alike : ∀ a ∈ sorted, (sorted.filter fun b => compare a b = .eq) =
      other.filter fun b => compare a b = .eq) : sorted = other := by
  induction sorted generalizing other with
  | nil => exact perm.nil_eq
  | cons a sorted inductionHypothesis =>
    cases other with
    | nil => exact perm.eq_nil
    | cons b other =>
      have bMember : b ∈ a :: sorted := perm.mem_iff.2 List.mem_cons_self
      rw [List.pairwise_cons] at ascending ascending'
      have isSame := orders.compare_self List.mem_cons_self
      have le : (compare a b).isLE := by
        rcases List.mem_cons.1 bMember with rfl | later
        · exact Ordering.isLE_of_eq_eq isSame
        · exact ascending.1 b later
      have ge : (compare b a).isLE := by
        rcases List.mem_cons.1 (perm.mem_iff.1 List.mem_cons_self) with rfl | later
        · exact Ordering.isLE_of_eq_eq isSame
        · exact ascending'.1 a later
      have heads := alike a List.mem_cons_self
      simp only [List.filter_cons, isSame, orders.eq_of_isLE List.mem_cons_self bMember le ge,
        decide_true, if_true, List.cons.injEq] at heads
      obtain ⟨rfl, -⟩ := heads
      rw [inductionHypothesis (orders.of_subset fun c => List.mem_cons_of_mem a)
        (List.perm_cons a |>.1 perm) ascending.2 ascending'.2 fun c cMember => ?_]
      have tails := alike c (List.mem_cons_of_mem a cMember)
      simp only [List.filter_cons] at tails
      split at tails
      · exact (List.cons.inj tails).2
      · exact tails

theorem Orders.stablySorts_iff (orders : Orders compare items) (sorted : List α) :
    StablySorts compare items sorted ↔ sorted = sort compare items := by
  constructor
  · intro sorts
    have isSort := orders.stablySorts_sort
    refine (orders.of_subset fun a => sorts.perm.mem_iff.1).eq_of_ascending
      (sorts.perm.trans isSort.perm.symm) sorts.ascending isSort.ascending fun a aMember => ?_
    rw [sorts.stable a (sorts.perm.mem_iff.1 aMember),
      isSort.stable a (sorts.perm.mem_iff.1 aMember)]
  · rintro rfl
    exact orders.stablySorts_sort

end

end TableQuery.MergeSort
