import Mathlib
import TableQuery.Proofs.Decimal.Bits
import TableQuery.Transformation

/-! # Cells that are the same

Two cells are the same if nothing tells them apart but the sign of a zero, and all doubles that
are no number are the same.  So every cell has something by which it is told from the cells that
are not the same, and sameness is an equivalence.
-/

namespace TableQuery

open Float.Model

namespace Double

def withoutSignOfZero : UnpackedFloat → UnpackedFloat
  | .zero _ => .zero .positive
  | u => u

/-- Doubles that are numbers compare as equal just if only the sign of a zero tells them apart. -/
theorem compare_eq_iff {u : UnpackedFloat} (isNumber : u.isNaN = false) (v : UnpackedFloat) :
    u.compare v = some .eq ↔ withoutSignOfZero u = withoutSignOfZero v := by
  cases u with
  | notANumber => cases isNumber
  | infinity s =>
    cases v with
    | infinity t =>
      cases s <;> cases t <;> simp [UnpackedFloat.compare, withoutSignOfZero] <;> decide
    | _ => cases s <;> simp [UnpackedFloat.compare, withoutSignOfZero]
  | zero s =>
    cases v with
    | infinity t => cases t <;> simp [UnpackedFloat.compare, withoutSignOfZero]
    | finite t m e positive => cases t <;> simp [UnpackedFloat.compare, withoutSignOfZero]
    | _ => simp [UnpackedFloat.compare, withoutSignOfZero]
  | finite s m e positive =>
    cases v with
    | notANumber => simp [UnpackedFloat.compare, withoutSignOfZero]
    | infinity t => cases t <;> simp [UnpackedFloat.compare, withoutSignOfZero]
    | zero t => cases s <;> simp [UnpackedFloat.compare, withoutSignOfZero]
    | finite t n f positive' =>
      cases s <;> cases t <;>
        simp [UnpackedFloat.compare, withoutSignOfZero, Ordering.then_eq_eq, and_comm]

theorem withoutSignOfZero_eq_notANumber {u : UnpackedFloat} :
    withoutSignOfZero u = .notANumber ↔ u.isNaN = true := by
  cases u <;> simp [withoutSignOfZero, UnpackedFloat.isNaN]

theorem unpacked_same_iff (u v : UnpackedFloat) : (u.beq v || (u.isNaN && v.isNaN)) = true ↔
    withoutSignOfZero u = withoutSignOfZero v := by
  cases isNumber : u.isNaN with
  | false =>
    rw [Bool.false_and, Bool.or_false, ← compare_eq_iff isNumber]
    exact beq_iff_eq
  | true =>
    have notEqual : u.beq v = false := by
      cases u with
      | notANumber => rfl
      | _ => cases isNumber
    rw [notEqual, Bool.false_or, Bool.true_and, withoutSignOfZero_eq_notANumber.2 isNumber,
      ← withoutSignOfZero_eq_notANumber]
    exact eq_comm

/-- What tells a double from others. -/
def essence (x : Float) : UnpackedFloat :=
  withoutSignOfZero (UnpackedFloat.unpack Format.binary64 (packed x))

theorem same_iff (x y : Float) : (x == y || (x.isNaN && y.isNaN)) = true ↔ essence x = essence y :=
  unpacked_same_iff _ _

end Double

namespace Cell

/-- What tells a cell from others. -/
def essence : Cell → Cell ⊕ UnpackedFloat
  | .null => .inl .null
  | .bool b => .inl (.bool b)
  | .number x => .inr (Double.essence x)
  | .text s => .inl (.text s)

theorem same_iff {a b : Cell} : a.same b = true ↔ a.essence = b.essence := by
  cases a with
  | number x =>
    cases b with
    | number y =>
      rw [essence, essence, Sum.inr.injEq]
      exact Double.same_iff x y
    | _ => exact iff_of_false Bool.false_ne_true Sum.inr_ne_inl
  | null =>
    cases b with
    | null => exact iff_of_true rfl rfl
    | _ => exact iff_of_false Bool.false_ne_true (by simp [essence])
  | bool p =>
    cases b with
    | bool q =>
      rw [essence, essence, Sum.inl.injEq, bool.injEq]
      show (p == q) = true ↔ p = q
      exact beq_iff_eq
    | _ => exact iff_of_false Bool.false_ne_true (by simp [essence])
  | text s =>
    cases b with
    | text t =>
      rw [essence, essence, Sum.inl.injEq, text.injEq]
      show (s == t) = true ↔ s = t
      exact beq_iff_eq
    | _ => exact iff_of_false Bool.false_ne_true (by simp [essence])

theorem same_refl (a : Cell) : a.same a = true := same_iff.2 rfl

variable {a b c : Cell}

theorem same_symm (same : a.same b = true) : b.same a = true := same_iff.2 (same_iff.1 same).symm

theorem same_comm (a b : Cell) : a.same b = b.same a :=
  Bool.eq_iff_iff.2 ⟨same_symm, same_symm⟩

theorem same_trans (first : a.same b = true) (second : b.same c = true) : a.same c = true :=
  same_iff.2 ((same_iff.1 first).trans (same_iff.1 second))

end Cell

end TableQuery
