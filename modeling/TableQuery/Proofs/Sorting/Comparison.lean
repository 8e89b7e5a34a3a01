import Mathlib
import TableQuery.Proofs.Decimal.Order
import TableQuery.Proofs.Sorting.MergeSort

/-! # Comparisons of rows go one way

A cell that is less than another is not greater than it, whatever the two cells are, and
the same holds for rows in both directions of a sort.  Texts among themselves, and doubles that
are numbers, are put in order.
-/

namespace TableQuery

/-! ## Doubles -/

theorem compareNumbers_swap (a b : Float) :
    (compareNumbers a b).swap = compareNumbers b a := by
  unfold compareNumbers
  by_cases less : a < b
  · simp [less, Double.lt_asymm less]
  · by_cases greater : b < a <;> simp [less, greater]

theorem compareNumbers_eq {a b : Float} (isNumber : a.isNaN = false) (isNumber' : b.isNaN = false) :
    compareNumbers a b = Double.comparePlaces (Double.placeOf a) (Double.placeOf b) := by
  have swapped : Double.comparePlaces (Double.placeOf b) (Double.placeOf a) =
      (Double.comparePlaces (Double.placeOf a) (Double.placeOf b)).swap := Std.OrientedCmp.eq_swap
  simp only [compareNumbers, Double.lt_iff isNumber isNumber', Double.lt_iff isNumber' isNumber,
    swapped]
  cases Double.comparePlaces (Double.placeOf a) (Double.placeOf b) <;> rfl

/-! ## Texts, cells and rows -/

theorem compareText_swap (a b : String) : (compareText a b).swap = compareText b a := by
  unfold compareText
  by_cases less : a < b
  · simp [less, String.lt_asymm less]
  · by_cases greater : b < a <;> simp [less, greater]

theorem isLE_compareText (a b : String) : (compareText a b).isLE ↔ a ≤ b := by
  unfold compareText
  by_cases less : a < b
  · simp [less, less.le]
  · by_cases greater : b < a
    · simp [less, greater]
    · simp [less, greater, not_lt.1 greater]

instance : Std.TransCmp compareText where
  eq_swap := (compareText_swap _ _).symm
  isLE_trans := by
    intro a b c first second
    rw [isLE_compareText] at first second ⊢
    exact first.trans second

/-- Cells that are not both texts are compared by the numbers that they count as. -/
theorem compareCells_of_text?_eq_none {a b : Cell} (notBoth : a.text? = none ∨ b.text? = none) :
    compareCells (some a) (some b) = compareNumbers a.toNumber b.toNumber := by
  cases a with
  | text s =>
    cases b with
    | text t => simp [Cell.text?] at notBoth
    | _ => rfl
  | _ => cases b <;> rfl

theorem compareCells_swap (a b : Option Cell) : (compareCells a b).swap = compareCells b a := by
  cases a with
  | none => cases b with
    | none => rfl
    | some b => cases b <;> rfl
  | some a =>
    cases b with
    | none => cases a <;> rfl
    | some b =>
      cases a <;> cases b <;>
        first | exact compareText_swap _ _ | exact compareNumbers_swap _ _

theorem SortOrder.apply_swap (order : SortOrder) (o : Ordering) :
    order.apply o.swap = (order.apply o).swap := by
  cases order <;> cases o <;> rfl

namespace SortKey

/-- The comparison of the rows at two positions of a dataset. -/
def comparePositions (key : SortKey) (rows : List Row) (i j : Nat) : Ordering :=
  key.order.apply
    (compareCells (rows[i]?.bind (·.get? key.column)) (rows[j]?.bind (·.get? key.column)))

theorem comparePositions_swap (key : SortKey) (rows : List Row) (i j : Nat) :
    (key.comparePositions rows i j).swap = key.comparePositions rows j i := by
  unfold comparePositions
  rw [← SortOrder.apply_swap, compareCells_swap]

/-- Does the row at `i` have to stand before the row at `j`?  It is less, or neither is less
    and it comes first in the dataset. -/
def Precedes (key : SortKey) (rows : List Row) : Nat → Nat → Prop :=
  MergeSort.Follows (key.comparePositions rows) (· < ·)

theorem not_precedes_of_precedes {key : SortKey} {rows : List Row} (i j : Nat)
    (first : key.Precedes rows i j) : ¬ key.Precedes rows j i := by
  have swapped := key.comparePositions_swap rows i j
  intro second
  rcases first with less | ⟨notGreater, earlier⟩ <;>
    rcases second with less' | ⟨notGreater', earlier'⟩
  · -- Each would be less than the other, which the comparison does not say.
    rw [less, less'] at swapped
    exact absurd swapped (by decide)
  · exact notGreater' less
  · exact notGreater less'
  · omega

end SortKey

end TableQuery
