import TableQuery.Filter
import TableQuery.Proofs.Page.Exact

/-! # When another page follows

A page says that another one follows just if an item is left for it, told in numbers without a
greatest one.  The page whose number is the greatest word takes the first page for the next one,
and says so of every list that is not empty.
-/

namespace TableQuery

theorem Word.toNat_add_one (w : UInt64) :
    (w + 1).toNat = if w = greatest then 0 else w.toNat + 1 := by
  have one_eq : (1 : UInt64).toNat = 1 := rfl
  have bound := w.toNat_lt
  by_cases last : w = greatest
  · subst last
    rfl
  · have notLast : w.toNat ≠ greatest.toNat := fun same => last (UInt64.toNat_inj.1 same)
    rw [toNat_greatest, UInt64.size] at notLast
    rw [if_neg last, UInt64.toNat_add, one_eq]
    omega

namespace Page

variable {α : Type} {items : List α} {index size : UInt64}

/-- Does an item stand behind the page of that number and size? -/
def Continues (items : List α) (index size : UInt64) : Prop :=
  ∃ position, (index.toNat + 1) * width size ≤ position ∧ position < items.length

theorem continues_iff : Continues items index size ↔
    (index.toNat + 1) * width size < items.length := by
  constructor
  · intro ⟨position, behind, within⟩
    exact Nat.lt_of_le_of_lt behind within
  · intro within
    exact ⟨_, Nat.le_refl _, within⟩

theorem continues_iff_between : Continues items index size ↔
    between ((index.toNat + 1) * width size) ((index.toNat + 2) * width size) items ≠ [] := by
  have positive := width_pos size
  have isNext : (index.toNat + 2) * width size = (index.toNat + 1) * width size + width size :=
    Nat.succ_mul _ _
  rw [continues_iff, between_eq, ← List.length_pos_iff, List.length_take, List.length_drop, isNext]
  omega

theorem not_continues_greatest (fits : items.length < UInt64.size) :
    ¬ Continues items Word.greatest size := by
  rw [continues_iff, Word.toNat_greatest]
  have positive := width_pos size
  have atLeast : UInt64.size ≤ (UInt64.size - 1 + 1) * width size :=
    Nat.le_mul_of_pos_right _ positive
  omega

theorem hasNext_of (items : List α) (index size : UInt64) :
    (Page.of items index size).hasNext = true ↔
      (index + 1).toNat < pageCount items.length size := by
  rw [← pageCount_max_one]
  exact decide_eq_true_iff

/-- The next page is told by its number, which starts over behind the greatest word. -/
theorem hasNext_of_eq (items : List α) (index size : UInt64) :
    (Page.of items index size).hasNext = true ↔
      if index = Word.greatest then items ≠ [] else Continues items index size := by
  rw [hasNext_of, Word.toNat_add_one, lt_pageCount_iff]
  by_cases last : index = Word.greatest
  · rw [if_pos last, if_pos last, Nat.zero_mul, List.length_pos_iff]
  · rw [if_neg last, if_neg last, continues_iff]

/-- A page says that another one follows just if items are left for that page, except that the
    page whose number is the greatest word says so wrongly of every list that is not empty. -/
theorem hasNext_of_iff_continues (items : List α) (index size : UInt64) :
    ((Page.of items index size).hasNext = true ↔
      if index = Word.greatest then items ≠ [] else Continues items index size) ∧
    (Continues items index size ↔
      between ((index.toNat + 1) * width size) ((index.toNat + 2) * width size) items ≠ []) ∧
    (items.length < UInt64.size →
      (((Page.of items index size).hasNext = true ↔ Continues items index size) ↔
        (index = Word.greatest → items = []))) := by
  refine ⟨hasNext_of_eq items index size, continues_iff_between, fun fits => ?_⟩
  rw [hasNext_of_eq]
  by_cases last : index = Word.greatest
  · subst last
    simp [not_continues_greatest fits]
  · simp [last]

/-- Of two pages the first is followed by the other, which is the last. -/
theorem hasNext_of_iff_continues_last :
    [7, 8, 9].length < UInt64.size ∧ ¬ Continues [7, 8, 9] 1 2 ∧
      (Page.of [7, 8, 9] 1 2).hasNext = false ∧
      ((Page.of [7, 8, 9] 0 2).hasNext = true ↔ Continues [7, 8, 9] 0 2) := by
  have fits : [7, 8, 9].length < UInt64.size := by decide
  obtain ⟨-, -, agrees⟩ := hasNext_of_iff_continues [7, 8, 9] 0 2
  obtain ⟨isNext, -, -⟩ := hasNext_of_iff_continues [7, 8, 9] 1 2
  have ends : ¬ Continues [7, 8, 9] 1 2 := by
    rw [continues_iff]
    decide
  refine ⟨fits, ends, ?_, (agrees fits).2 fun last => absurd last (by decide)⟩
  rw [Bool.eq_false_iff]
  exact fun next => ends (isNext.1 next)

/-- Behind the page of the greatest number there is no row, and yet it says that a page follows. -/
theorem hasNext_of_greatest :
    (Page.of (Entry.ofRows [Row.empty]) Word.greatest 1).hasNext = true ∧
      ¬ Continues (Entry.ofRows [Row.empty]) Word.greatest 1 := by
  exact ⟨by decide, not_continues_greatest (by decide)⟩

end Page

end TableQuery
