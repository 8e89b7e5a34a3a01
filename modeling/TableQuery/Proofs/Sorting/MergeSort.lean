import Mathlib.Data.List.Chain
import Mathlib.Data.List.Perm.Basic
import TableQuery.Sorting

/-! # What the merge sort makes of its items

For any comparison, consistent or not, the sort returns the items it was given, and in its
result each item stands in stable order to its neighbour: it is less, or the neighbour is
not less and stood behind it before.  Where no item is less than one before it, nothing moves.
If the items have a stable order at all, that is the result.
-/

namespace TableQuery.MergeSort

variable {α β : Type}

/-! ## No item is lost or doubled -/

theorem merge_perm (compare : α → α → Ordering) (left right : List α) :
    (merge compare left right).Perm (left ++ right) := by
  fun_induction merge compare left right with
  | case1 right => exact .refl _
  | case2 left => simp
  | case3 a left b right less inductionHypothesis =>
    exact (inductionHypothesis.cons b).trans List.perm_middle.symm
  | case4 a left b right notLess inductionHypothesis =>
    exact inductionHypothesis.cons a

theorem mergePairs_perm (compare : α → α → Ordering) (runs : List (List α)) :
    (mergePairs compare runs).flatten.Perm runs.flatten := by
  fun_induction mergePairs compare runs with
  | case1 a b rest inductionHypothesis =>
    simp only [List.flatten_cons]
    rw [← List.append_assoc]
    exact (merge_perm compare a b).append inductionHypothesis
  | case2 runs => exact .refl _

theorem mergeAll_perm (compare : α → α → Ordering) (runs : List (List α)) :
    (mergeAll compare runs).Perm runs.flatten := by
  fun_induction mergeAll compare runs with
  | case1 => exact .refl _
  | case2 run => simp
  | case3 a b rest inductionHypothesis =>
    have pass := mergePairs_perm compare (a :: b :: rest)
    rw [mergePairs] at pass
    exact inductionHypothesis.trans pass

theorem flatten_singletons (items : List α) : (items.map fun a => [a]).flatten = items := by
  rw [← List.flatMap_def, List.flatMap_singleton']

theorem sort_perm (compare : α → α → Ordering) (items : List α) :
    (sort compare items).Perm items := by
  have permuted := mergeAll_perm compare (items.map fun a => [a])
  rwa [flatten_singletons] at permuted

/-! ## Sorting by what a function shows of the items -/

section

variable (shown : α → β) {compare : α → α → Ordering} {compareShown : β → β → Ordering}

theorem map_merge (left right : List α)
    (agree : ∀ a ∈ left, ∀ b ∈ right, compare b a = compareShown (shown b) (shown a)) :
    (merge compare left right).map shown =
      merge compareShown (left.map shown) (right.map shown) := by
  fun_induction merge compare left right with
  | case1 right => simp [merge]
  | case2 left nonempty => cases left <;> simp [merge]
  | case3 a left b right less inductionHypothesis =>
    have lessShown : compareShown (shown b) (shown a) = .lt := by
      rw [← agree a (by simp) b (by simp), less]
    simp only [List.map_cons, merge, lessShown, if_true]
    rw [inductionHypothesis fun x member y other => agree x member y (by simp [other])]
    rfl
  | case4 a left b right notLess inductionHypothesis =>
    have notLessShown : ¬ compareShown (shown b) (shown a) = .lt := by
      rwa [← agree a (by simp) b (by simp)]
    simp only [List.map_cons, merge, notLessShown, if_false]
    rw [inductionHypothesis fun x member y other => agree x (by simp [member]) y other]
    rfl

theorem map_mergePairs (runs : List (List α))
    (agree : ∀ a ∈ runs.flatten, ∀ b ∈ runs.flatten,
      compare b a = compareShown (shown b) (shown a)) :
    (mergePairs compare runs).map (List.map shown) =
      mergePairs compareShown (runs.map (List.map shown)) := by
  fun_induction mergePairs compare runs with
  | case1 a b rest inductionHypothesis =>
    simp only [List.map_cons, mergePairs]
    rw [map_merge shown a b fun x member y other => agree x (by simp [member]) y (by simp [other])]
    rw [inductionHypothesis fun x member y other =>
      agree x (by simp at member ⊢; tauto) y (by simp at other ⊢; tauto)]
  | case2 runs short =>
    cases runs with
    | nil => rfl
    | cons first rest =>
      cases rest with
      | nil => rfl
      | cons second rest => exact absurd rfl (short first second rest)

theorem map_mergeAll (runs : List (List α))
    (agree : ∀ a ∈ runs.flatten, ∀ b ∈ runs.flatten,
      compare b a = compareShown (shown b) (shown a)) :
    (mergeAll compare runs).map shown = mergeAll compareShown (runs.map (List.map shown)) := by
  fun_induction mergeAll compare runs with
  | case1 => simp [mergeAll]
  | case2 run => simp [mergeAll]
  | case3 a b rest inductionHypothesis =>
    have pass := map_mergePairs shown (a :: b :: rest) agree
    have kept := mergePairs_perm compare (a :: b :: rest)
    rw [mergePairs] at pass kept
    rw [inductionHypothesis fun x member y other =>
      agree x (kept.mem_iff.1 member) y (kept.mem_iff.1 other)]
    rw [pass]
    simp only [List.map_cons, mergePairs, mergeAll]

theorem map_sort (items : List α)
    (agree : ∀ a ∈ items, ∀ b ∈ items, compare b a = compareShown (shown b) (shown a)) :
    (sort compare items).map shown = sort compareShown (items.map shown) := by
  rw [sort, map_mergeAll shown _ (by rwa [flatten_singletons]), sort, List.map_map, List.map_map]
  rfl

end

/-! ## Neighbours stand in stable order -/

/-- May the first item stand before the second?  It is less, or the second is not less and
    came after it in the order `before`. -/
def Follows (compare : α → α → Ordering) (before : α → α → Prop) (x y : α) : Prop :=
  compare x y = .lt ∨ compare y x ≠ .lt ∧ before x y

theorem head?_merge_cases (compare : α → α → Ordering) (left right : List α) (first : α)
    (head : first ∈ (merge compare left right).head?) :
    first ∈ left.head? ∨ first ∈ right.head? := by
  fun_cases merge compare left right with
  | case1 right => simp only [merge] at head; exact .inr head
  | case2 left nonempty => cases left <;> simp_all [merge]
  | case3 a left b right less => simp_all [merge]
  | case4 a left b right notLess => simp_all [merge]

/-- Merging keeps neighbours in stable order if the items of the left run came before those
    of the right one. -/
theorem isChain_merge {compare : α → α → Ordering} {before : α → α → Prop}
    (left right : List α) (leftOrdered : left.IsChain (Follows compare before))
    (rightOrdered : right.IsChain (Follows compare before))
    (apart : ∀ a ∈ left, ∀ b ∈ right, before a b) :
    (merge compare left right).IsChain (Follows compare before) := by
  fun_induction merge compare left right with
  | case1 right => exact rightOrdered
  | case2 left => exact leftOrdered
  | case3 a left b right less inductionHypothesis =>
    rw [List.isChain_cons] at rightOrdered ⊢
    refine ⟨?_, inductionHypothesis leftOrdered rightOrdered.2
      fun x member y other => apart x member y (by simp [other])⟩
    intro next head
    -- The next item is the head of the left run, which `b` is less than, or follows `b`.
    cases head?_merge_cases _ _ _ _ head with
    | inl fromLeft =>
      simp only [List.head?_cons, Option.mem_def, Option.some.injEq] at fromLeft
      exact .inl (fromLeft ▸ less)
    | inr fromRight => exact rightOrdered.1 next fromRight
  | case4 a left b right notLess inductionHypothesis =>
    rw [List.isChain_cons] at leftOrdered ⊢
    refine ⟨?_, inductionHypothesis leftOrdered.2 rightOrdered
      fun x member y other => apart x (by simp [member]) y other⟩
    intro next head
    -- Here `a` is kept before `b` because it came first: this is what makes the sort stable.
    cases head?_merge_cases _ _ _ _ head with
    | inl fromLeft => exact leftOrdered.1 next fromLeft
    | inr fromRight =>
      simp only [List.head?_cons, Option.mem_def, Option.some.injEq] at fromRight
      subst fromRight
      exact .inr ⟨notLess, apart a (by simp) b (by simp)⟩

/-- Runs whose items stand in stable order and came run after run. -/
def RunsOrdered (compare : α → α → Ordering) (before : α → α → Prop)
    (runs : List (List α)) : Prop :=
  (∀ run ∈ runs, run.IsChain (Follows compare before)) ∧
    runs.Pairwise fun left right => ∀ a ∈ left, ∀ b ∈ right, before a b

theorem RunsOrdered.mergePairs {compare : α → α → Ordering} {before : α → α → Prop}
    (runs : List (List α)) (ordered : RunsOrdered compare before runs) :
    RunsOrdered compare before (mergePairs compare runs) := by
  fun_induction TableQuery.MergeSort.mergePairs compare runs with
  | case1 a b rest inductionHypothesis =>
    obtain ⟨chains, apart⟩ := ordered
    simp only [List.pairwise_cons, List.mem_cons, forall_eq_or_imp] at chains apart
    obtain ⟨restChains, restApart⟩ := inductionHypothesis ⟨chains.2.2, apart.2.2⟩
    refine ⟨?_, List.pairwise_cons.2 ⟨?_, restApart⟩⟩
    · simp only [List.mem_cons, forall_eq_or_imp]
      exact ⟨isChain_merge a b chains.1 chains.2.1 apart.1.1, restChains⟩
    · -- A merged pair has the items of its two runs, so all of it came before later runs.
      intro right member x xMember y yMember
      have inPair : x ∈ a ++ b := (merge_perm compare a b).mem_iff.1 xMember
      have inRest : y ∈ rest.flatten :=
        (mergePairs_perm compare rest).mem_iff.1 (List.mem_flatten_of_mem member yMember)
      obtain ⟨run, runMember, yInRun⟩ := List.mem_flatten.1 inRest
      cases List.mem_append.1 inPair with
      | inl fromLeft => exact apart.1.2 run runMember x fromLeft y yInRun
      | inr fromRight => exact apart.2.1 run runMember x fromRight y yInRun
  | case2 runs => exact ordered

theorem isChain_mergeAll {compare : α → α → Ordering} {before : α → α → Prop}
    (runs : List (List α)) (ordered : RunsOrdered compare before runs) :
    (mergeAll compare runs).IsChain (Follows compare before) := by
  fun_induction mergeAll compare runs with
  | case1 => exact .nil
  | case2 run => exact ordered.1 run (by simp)
  | case3 a b rest inductionHypothesis =>
    have pass := RunsOrdered.mergePairs _ ordered
    rw [TableQuery.MergeSort.mergePairs] at pass
    exact inductionHypothesis pass

/-- In the sorted list each item stands in stable order to the one behind it. -/
theorem isChain_sort {compare : α → α → Ordering} {before : α → α → Prop} (items : List α)
    (inOrder : items.Pairwise before) :
    (sort compare items).IsChain (Follows compare before) := by
  apply isChain_mergeAll
  refine ⟨?_, ?_⟩
  · intro run member
    obtain ⟨item, -, rfl⟩ := List.mem_map.1 member
    exact .singleton item
  · rw [List.pairwise_map]
    exact inOrder.imp fun {a b} earlier x xMember y yMember => by
      rw [List.mem_singleton.1 xMember, List.mem_singleton.1 yMember]
      exact earlier

/-! ## Lists without inversions stay as they are -/

theorem merge_eq_append {compare : α → α → Ordering} (left right : List α)
    (apart : ∀ a ∈ left, ∀ b ∈ right, compare b a ≠ .lt) :
    merge compare left right = left ++ right := by
  fun_induction merge compare left right with
  | case1 right => rfl
  | case2 left => simp
  | case3 a left b right less => exact absurd less (apart a (by simp) b (by simp))
  | case4 a left b right notLess inductionHypothesis =>
    rw [inductionHypothesis fun x member y other => apart x (by simp [member]) y other]
    rfl

theorem flatten_mergePairs {compare : α → α → Ordering} (runs : List (List α))
    (ordered : runs.flatten.Pairwise fun a b => compare b a ≠ .lt) :
    (mergePairs compare runs).flatten = runs.flatten := by
  fun_induction mergePairs compare runs with
  | case1 a b rest inductionHypothesis =>
    rw [List.flatten_cons, List.flatten_cons, ← List.append_assoc, List.pairwise_append] at ordered
    simp only [List.flatten_cons]
    rw [inductionHypothesis ordered.2.1, merge_eq_append a b (List.pairwise_append.1 ordered.1).2.2,
      List.append_assoc]
  | case2 runs => rfl

theorem mergeAll_eq_flatten {compare : α → α → Ordering} (runs : List (List α))
    (ordered : runs.flatten.Pairwise fun a b => compare b a ≠ .lt) :
    mergeAll compare runs = runs.flatten := by
  fun_induction mergeAll compare runs with
  | case1 => rfl
  | case2 run => simp
  | case3 a b rest inductionHypothesis =>
    have pass := flatten_mergePairs (a :: b :: rest) ordered
    rw [mergePairs] at pass
    rw [inductionHypothesis (pass ▸ ordered), pass]

/-- A list of which no item is less than one before it is left as it is. -/
theorem sort_eq_self {compare : α → α → Ordering} {items : List α}
    (ordered : items.Pairwise fun a b => compare b a ≠ .lt) : sort compare items = items := by
  rw [← flatten_singletons items] at ordered
  rw [sort, mergeAll_eq_flatten _ ordered, flatten_singletons]

/-! ## The stable order, if there is one -/

/-- A relation that goes one way only leaves its pairs in the order of a list in which all
    pairs are related. -/
theorem idxOf_lt_of_pairwise [DecidableEq α] {related : α → α → Prop}
    (oneWay : ∀ x y, related x y → ¬ related y x) {items : List α}
    (ordered : items.Pairwise related) {x y : α} (xMember : x ∈ items) (yMember : y ∈ items)
    (pair : related x y) : items.idxOf x < items.idxOf y := by
  rcases Nat.lt_trichotomy (items.idxOf x) (items.idxOf y) with earlier | same | later
  · exact earlier
  · rw [List.idxOf_inj xMember] at same
    exact absurd pair (same ▸ oneWay x y pair)
  · have reversed := List.pairwise_iff_getElem.1 ordered _ _ (List.idxOf_lt_length_of_mem yMember)
      (List.idxOf_lt_length_of_mem xMember) later
    rw [List.getElem_idxOf, List.getElem_idxOf] at reversed
    exact absurd reversed (oneWay x y pair)

/-- If all pairs of one arrangement are related, there is no other arrangement of the same
    items in which neighbours are related. -/
theorem eq_of_isChain_of_pairwise [DecidableEq α] {related : α → α → Prop}
    (oneWay : ∀ x y, related x y → ¬ related y x) {result other : List α}
    (permuted : result.Perm other) (chain : result.IsChain related)
    (ordered : other.Pairwise related) : result = other := by
  -- Along `result` the places in `other` ascend, as they do along `other` itself.
  have ascending : result.IsChain fun x y => other.idxOf x < other.idxOf y := by
    refine List.IsChain.imp_of_mem_imp (fun x y xMember yMember pair => ?_) chain
    exact idxOf_lt_of_pairwise oneWay ordered (permuted.mem_iff.1 xMember)
      (permuted.mem_iff.1 yMember) pair
  have resultSorted : result.Pairwise fun x y => other.idxOf x < other.idxOf y :=
    haveI : Trans (fun x y => other.idxOf x < other.idxOf y)
        (fun x y => other.idxOf x < other.idxOf y) (fun x y => other.idxOf x < other.idxOf y) :=
      ⟨fun first second => Nat.lt_trans first second⟩
    List.isChain_iff_pairwise.1 ascending
  have otherSorted : other.Pairwise fun x y => other.idxOf x < other.idxOf y :=
    ordered.imp_of_mem fun xMember yMember pair =>
      idxOf_lt_of_pairwise oneWay ordered xMember yMember pair
  refine permuted.eq_of_pairwise (fun x y _ _ lt gt => ?_) resultSorted otherSorted
  omega

end TableQuery.MergeSort
