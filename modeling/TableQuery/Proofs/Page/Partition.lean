import Mathlib.Data.List.Basic
import TableQuery.Page

/-! # Pages make up their list

The pages of a list, one behind the other, are the list, as long as its length is a machine
word.  Then none of the bounds of a page stops at the greatest word in between.
-/

namespace TableQuery

variable {α : Type} {items : List α}

theorem Word.toNat_ofNatUpTo {n : Nat} (fits : n < UInt64.size) : (ofNatUpTo n).toNat = n := by
  rw [ofNatUpTo, if_pos fits, Nat.toUInt64_eq, UInt64.toNat_ofNat_of_lt' fits]

theorem Word.before_succ {n : Nat} (fits : n + 1 < UInt64.size) :
    before (UInt64.ofNat (n + 1)) = UInt64.ofNat n := by
  have isNonzero : UInt64.ofNat (n + 1) ≠ 0 := by
    intro isZero
    have isNat := congrArg UInt64.toNat isZero
    rw [UInt64.toNat_ofNat_of_lt' fits] at isNat
    cases isNat
  rw [before, if_neg isNonzero, UInt64.ofNat_add]
  exact UInt64.add_sub_cancel _ _

namespace Page

/-- How many items a page of a set size holds if there are enough. -/
def width (size : UInt64) : Nat := max size.toNat 1

theorem toNat_max_one (size : UInt64) : (max size 1).toNat = width size := by
  show (if size ≤ 1 then 1 else size).toNat = max size.toNat 1
  have one_eq : (1 : UInt64).toNat = 1 := rfl
  split
  · next small =>
    rw [UInt64.le_iff_toNat_le] at small
    omega
  · next large =>
    rw [UInt64.le_iff_toNat_le] at large
    omega

theorem width_pos (size : UInt64) : 0 < width size :=
  Nat.lt_of_lt_of_le Nat.one_pos (Nat.le_max_right _ _)

theorem width_max_one (size : UInt64) : width (max size 1) = width size := by
  rw [width, toNat_max_one, width]
  omega

/-- Where a page begins in a list of so many items, computed in words. -/
def startOf (total : Nat) (index size : UInt64) : Nat :=
  min (Word.mulUpTo index (max size 1)).toNat total

/-- Where a page ends in a list of so many items, computed in words. -/
def stopOf (total : Nat) (index size : UInt64) : Nat :=
  min (Word.addUpTo (Word.ofNatUpTo (startOf total index size)) (max size 1)).toNat total

theorem items_eq_slice (items : List α) (index size : UInt64) :
    (Page.of items index size).items =
      (items.drop (startOf items.length index size)).take
        (stopOf items.length index size - startOf items.length index size) := rfl

/-- The product is cut off at the length, which the greatest word is not below. -/
theorem startOf_eq {total : Nat} (fits : total < UInt64.size) (index size : UInt64) :
    startOf total index size = min (index.toNat * width size) total := by
  have greatest_eq := Word.toNat_greatest
  rw [startOf, Word.toNat_mulUpTo, toNat_max_one]
  omega

theorem stopOf_eq {total : Nat} (fits : total < UInt64.size) (index size : UInt64) :
    stopOf total index size = min ((index.toNat + 1) * width size) total := by
  have greatest_eq := Word.toNat_greatest
  rw [stopOf, Word.toNat_addUpTo, toNat_max_one, startOf_eq fits, Word.toNat_ofNatUpTo (by omega),
    Nat.succ_mul]
  omega

/-- A page holds the items from its bound on, as many as its size says. -/
theorem items_of (fits : items.length < UInt64.size) (index size : UInt64) :
    (Page.of items index size).items =
      (items.drop (index.toNat * width size)).take (width size) := by
  rw [items_eq_slice, startOf_eq fits, stopOf_eq fits, Nat.succ_mul]
  rcases Nat.le_total (index.toNat * width size) items.length with within | beyond
  · rw [Nat.min_eq_left within, List.take_eq_take_iff, List.length_drop]
    omega
  · rw [Nat.min_eq_right beyond, List.drop_length, List.drop_of_length_le beyond, List.take_nil,
      List.take_nil]

/-- Pieces of a set width, one behind the other, are the items in front. -/
theorem flatMap_pieces (items : List α) (width count : Nat) :
    ((List.range count).flatMap fun i => (items.drop (i * width)).take width) =
      items.take (count * width) := by
  induction count with
  | zero => simp
  | succ count inductionHypothesis =>
    rw [List.range_succ, List.flatMap_append, inductionHypothesis, List.flatMap_singleton,
      Nat.succ_mul, List.take_add]

theorem pageCount_max_one (total : Nat) (size : UInt64) :
    pageCount total (max size 1) = pageCount total size := by
  rw [pageCount, pageCount, ← width, ← width, width_max_one]

theorem pageCount_le_iff {total count : Nat} {size : UInt64} :
    pageCount total size ≤ count ↔ total ≤ count * width size := by
  have positive := width_pos size
  rw [pageCount, ← width, ← Nat.lt_succ_iff, Nat.div_lt_iff_lt_mul positive, Nat.succ_mul]
  omega

theorem length_le_pageCount_mul (total : Nat) (size : UInt64) :
    total ≤ pageCount total size * width size :=
  pageCount_le_iff.1 (Nat.le_refl _)

theorem pageCount_le (total : Nat) (size : UInt64) : pageCount total size ≤ total :=
  pageCount_le_iff.2 (Nat.le_mul_of_pos_right total (width_pos size))

theorem flatMap_items_of (fits : items.length < UInt64.size) (size : UInt64) :
    ((List.range (pageCount items.length size)).flatMap fun i =>
      (Page.of items (UInt64.ofNat i) size).items) = items := by
  have few := pageCount_le items.length size
  have pieces : ∀ i ∈ List.range (pageCount items.length size),
      (Page.of items (UInt64.ofNat i) size).items =
        (items.drop (i * width size)).take (width size) := by
    intro i member
    have small := List.mem_range.1 member
    rw [items_of fits, UInt64.toNat_ofNat_of_lt' (by omega)]
  rw [List.flatMap_congr pieces, flatMap_pieces, List.take_of_length_le]
  exact length_le_pageCount_mul items.length size

end Page

end TableQuery
