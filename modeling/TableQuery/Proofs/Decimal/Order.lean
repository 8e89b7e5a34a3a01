import Mathlib
import TableQuery.Proofs.Decimal.Bits

/-! # Doubles in order

Doubles that are numbers stand on a line, from the negative infinity to the positive one, where
both zeros have one place.  They compare as their places do, so what holds of the order of places
holds of them.
-/

namespace TableQuery.Double

open Float.Model

/-- Where a double stands: its sign and kind, then its exponent, then its significand. -/
def place : UnpackedFloat → Int × Int × Int
  | .infinity .negative => (-2, 0, 0)
  | .finite .negative m e _ => (-1, -e, -m)
  | .zero _ => (0, 0, 0)
  | .finite .positive m e _ => (1, e, m)
  | .infinity .positive => (2, 0, 0)
  | .notANumber => (0, 0, 0)

/-- Compare places part by part. -/
def comparePlaces : Int × Int × Int → Int × Int × Int → Ordering :=
  compareLex (compareOn (·.1)) (compareLex (compareOn (·.2.1)) (compareOn (·.2.2)))

instance : Std.TransCmp comparePlaces :=
  inferInstanceAs (Std.TransCmp (compareLex _ (compareLex _ _)))

theorem compare_neg (a b : Int) : compare (-a) (-b) = (compare a b).swap := by
  rw [← Std.OrientedOrd.eq_swap]
  simp only [compare, compareOfLessAndEq]
  grind

theorem compare_natCast (m n : Nat) : compare (m : Int) (n : Int) = compare m n := by
  simp only [compare, compareOfLessAndEq]
  grind

theorem compare_eq_comparePlaces {u v : UnpackedFloat} (isNumber : u.isNaN = false)
    (isNumber' : v.isNaN = false) : u.compare v = some (comparePlaces (place u) (place v)) := by
  cases u with
  | notANumber => cases isNumber
  | infinity s =>
    cases v with
    | notANumber => cases isNumber'
    | infinity t => cases s <;> cases t <;> rfl
    | zero t => cases s <;> rfl
    | finite t m e positive => cases s <;> cases t <;> rfl
  | zero s =>
    cases v with
    | notANumber => cases isNumber'
    | infinity t => cases t <;> rfl
    | zero t => rfl
    | finite t m e positive => cases t <;> rfl
  | finite s m e positive =>
    cases v with
    | notANumber => cases isNumber'
    | infinity t => cases s <;> cases t <;> rfl
    | zero t => cases s <;> rfl
    | finite t n f positive' =>
      -- Only here are exponents and significands compared, and the sign turns both round.
      cases s with
      | negative =>
        cases t with
        | negative =>
          simp [UnpackedFloat.compare, place, comparePlaces, compareLex, compareOn, compare_neg,
            compare_natCast, Ordering.swap_then]
        | positive => rfl
      | positive =>
        cases t with
        | negative => rfl
        | positive =>
          simp [UnpackedFloat.compare, place, comparePlaces, compareLex, compareOn,
            compare_natCast]

theorem isNumber_of_compare {u v : UnpackedFloat} {o : Ordering} (compares : u.compare v = some o) :
    u.isNaN = false ∧ v.isNaN = false := by
  cases u with
  | notANumber => simp [UnpackedFloat.compare] at compares
  | _ =>
    cases v with
    | notANumber => simp [UnpackedFloat.compare] at compares
    | _ => exact ⟨rfl, rfl⟩

/-! ## Doubles of the program -/

/-- Where a double of the program stands. -/
def placeOf (x : Float) : Int × Int × Int := place x.toModel.unpack

theorem lt_iff_compare {a b : Float} :
    a < b ↔ a.toModel.unpack.compare b.toModel.unpack = some .lt := by
  show a.lt b = true ↔ _
  simp only [Float.lt, decide_eq_true_eq]
  exact beq_iff_eq

theorem lt_iff {a b : Float} (isNumber : a.isNaN = false) (isNumber' : b.isNaN = false) :
    a < b ↔ comparePlaces (placeOf a) (placeOf b) = .lt := by
  have compares : a.toModel.unpack.compare b.toModel.unpack =
      some (comparePlaces (placeOf a) (placeOf b)) := compare_eq_comparePlaces isNumber isNumber'
  rw [lt_iff_compare, compares, Option.some.injEq]

theorem isNumber_of_lt {a b : Float} (less : a < b) : a.isNaN = false ∧ b.isNaN = false :=
  isNumber_of_compare (lt_iff_compare.1 less)

/-- A double is not less than one that is less than it, be they numbers or not. -/
theorem lt_asymm {a b : Float} (less : a < b) : ¬ b < a := by
  obtain ⟨isNumber, isNumber'⟩ := isNumber_of_lt less
  have swapped : comparePlaces (placeOf b) (placeOf a) =
      (comparePlaces (placeOf a) (placeOf b)).swap := Std.OrientedCmp.eq_swap
  rw [lt_iff isNumber isNumber'] at less
  rw [lt_iff isNumber' isNumber, swapped, less]
  decide

end TableQuery.Double
