import Mathlib
import TableQuery.Proofs.Decimal.Order

/-! # Doubles in the order of their bits

A double is told from all others by what it is unpacked to, so there is one that is no number and
one infinity of each sign.  Doubles without a sign are ordered as their bits are.
-/

namespace TableQuery.Double

open Float.Model Float.Model.UnpackedFloat

variable {x y : Float}

/-! ## Doubles by what they are unpacked to -/

theorem pack_unpack_packed (x : Float) :
    UnpackedFloat.pack Format.binary64 (UnpackedFloat.unpack Format.binary64 (packed x)) =
      packed x := by
  cases isFinite : x.isFinite with
  | true => exact pack_unpack isFinite
  | false =>
    have isAll := exponent_eq_of_infinite isFinite
    rw [UnpackedFloat.unpack]
    simp only
    rw [if_pos isAll]
    by_cases noFraction : unpackMantissa (packed x) = 0#52
    · rw [if_pos noFraction]
      exact packComponents_fields isAll noFraction
    · -- All doubles that are no number have the same bits.
      rw [if_neg noFraction]
      exact (x.toModel.valid.eq_packedNaN isAll noFraction).symm

theorem eq_of_unpack_eq (same : x.toModel.unpack = y.toModel.unpack) : x = y := by
  have samePacked : packed x = packed y := by
    rw [← pack_unpack_packed x, ← pack_unpack_packed y]
    exact congrArg (UnpackedFloat.pack Format.binary64) same
  obtain ⟨⟨bits, valid⟩⟩ := x
  obtain ⟨⟨bits', valid'⟩⟩ := y
  obtain rfl : bits = bits' := UInt64.toBitVec_inj.1 samePacked
  rfl

theorem eq_notANumber (noNumber : x.isNaN = true) : x = TableQuery.notANumber := by
  apply eq_of_unpack_eq
  change x.toModel.unpack.isNaN = true at noNumber
  cases isUnpacked : x.toModel.unpack with
  | notANumber => rfl
  | _ =>
    rw [isUnpacked] at noNumber
    cases noNumber

theorem exists_eq_infinite (notFinite : x.isFinite = false) (isNumber : x.isNaN = false) :
    ∃ negative, x = infinite negative := by
  change x.toModel.unpack.isFinite = false at notFinite
  change x.toModel.unpack.isNaN = false at isNumber
  cases isUnpacked : x.toModel.unpack with
  | infinity sign =>
    cases sign with
    | positive => exact ⟨false, eq_of_unpack_eq isUnpacked⟩
    | negative => exact ⟨true, eq_of_unpack_eq isUnpacked⟩
  | notANumber =>
    rw [isUnpacked] at isNumber
    cases isNumber
  | zero sign | finite sign m e positive =>
    rw [isUnpacked] at notFinite
    cases notFinite

/-! ## Signs -/

theorem unpackSign_eq_iff (b : Packed) : unpackSign b = 0#1 ↔ b.toNat < Decimal.signBits := by
  have isSign : (unpackSign b).toNat = b.toNat / 2 ^ 63 % 2 ^ 1 := by
    show (b.toNat >>> 63) % 2 ^ 1 = _
    rw [Nat.shiftRight_eq_div_pow]
  have bound : b.toNat < 2 ^ 64 := b.isLt
  rw [← BitVec.toNat_inj, isSign, Decimal.signBits, BitVec.toNat_ofNat]
  omega

theorem ofBitVec_eq_negative_iff (v : BitVec 1) : Sign.ofBitVec v = .negative ↔ ¬ v = 0#1 := by
  rw [Sign.ofBitVec]
  split <;> simp [*]

/-- A finite double is less than zero just if it has a sign and is not zero. -/
theorem lt_zero_iff (finite : x.isFinite = true) :
    x < 0 ↔ Decimal.signBits ≤ x.toBits.toNat ∧ magnitude x ≠ 0 := by
  have notAll : ¬ unpackExponent (packed x) = -1#11 := fun same =>
    exponent_ne_of_isFinite finite (congrArg BitVec.toNat same)
  have isZero : (0 : Float).toModel.unpack = .zero .positive := rfl
  rw [lt_iff_compare, isZero, Ne, magnitude_eq_zero_iff, ← toNat_packed, ← Nat.not_lt,
    ← unpackSign_eq_iff, ← ofBitVec_eq_negative_iff]
  show UnpackedFloat.compare (UnpackedFloat.unpack Format.binary64 (packed x)) _ = _ ↔ _
  rw [UnpackedFloat.unpack]
  simp only
  rw [if_neg notAll]
  by_cases noExponent : unpackExponent (packed x) = 0#11
  · rw [if_pos noExponent]
    by_cases noFraction : unpackMantissa (packed x) = 0#52
    · rw [dif_pos noFraction]
      simp [noExponent, noFraction, UnpackedFloat.compare]
    · rw [dif_neg noFraction]
      cases Sign.ofBitVec (unpackSign (packed x)) <;> simp [noFraction, UnpackedFloat.compare]
  · rw [if_neg noExponent]
    cases Sign.ofBitVec (unpackSign (packed x)) <;> simp [noExponent, UnpackedFloat.compare]

theorem abs_unpack {b c : Packed} (noSign : unpackSign c = 0#1)
    (sameExponent : unpackExponent b = unpackExponent c)
    (sameFraction : unpackMantissa b = unpackMantissa c) :
    (UnpackedFloat.unpack Format.binary64 b).abs = UnpackedFloat.unpack Format.binary64 c := by
  have isPositive : Sign.ofBitVec (unpackSign c) = .positive := by rw [noSign]; rfl
  rw [UnpackedFloat.unpack, UnpackedFloat.unpack]
  simp only [isPositive, sameExponent, sameFraction]
  split
  · split <;> rfl
  · split
    · split <;> rfl
    · rfl

/-- The absolute value of a finite double has its bits besides the sign. -/
theorem abs_eq_floatOfBits (finite : x.isFinite = true) :
    x.abs = Decimal.floatOfBits false (magnitude x) := by
  have isBits : (packed (Decimal.floatOfBits false (magnitude x))).toNat = magnitude x := by
    simpa using (packed_floatOfBits false (magnitude_lt_infinityBits finite)).1
  have isMod : magnitude x = (packed x).toNat % 2 ^ 63 := rfl
  have noSign := (unpackSign_eq_iff (packed (Decimal.floatOfBits false (magnitude x)))).2 <| by
    rw [isBits, isMod]
    exact Nat.mod_lt _ (by decide)
  have sameExponent : unpackExponent (packed x) =
      unpackExponent (packed (Decimal.floatOfBits false (magnitude x))) := by
    rw [← BitVec.toNat_inj, toNat_exponent, toNat_exponent, isBits, isMod]
    omega
  have sameFraction : unpackMantissa (packed x) =
      unpackMantissa (packed (Decimal.floatOfBits false (magnitude x))) := by
    rw [← BitVec.toNat_inj, toNat_fraction, toNat_fraction, isBits, isMod]
    omega
  apply eq_of_unpack_eq
  show UnpackedFloat.unpack Format.binary64 (UnpackedFloat.pack Format.binary64
    (UnpackedFloat.unpack Format.binary64 (packed x)).abs) = _
  rw [abs_unpack noSign sameExponent sameFraction, pack_unpack_packed]
  rfl

/-! ## Order -/

theorem comparePlaces_eq_lt_iff {p q : Int × Int × Int} : comparePlaces p q = .lt ↔
    p.1 < q.1 ∨ p.1 = q.1 ∧ (p.2.1 < q.2.1 ∨ p.2.1 = q.2.1 ∧ p.2.2 < q.2.2) := by
  simp [comparePlaces, compareLex, compareOn, Ordering.then_eq_lt, compare_lt_iff_lt]

theorem place_unpack {b : Packed} (small : b.toNat < Decimal.infinityBits) :
    place (UnpackedFloat.unpack Format.binary64 b) =
      if b.toNat = 0 then (0, 0, 0)
      else if b.toNat < 2 ^ 52 then (1, -1074, (b.toNat : Int))
      else (1, ((b.toNat / 2 ^ 52 : Nat) : Int) - 1075,
        ((2 ^ 52 + b.toNat % 2 ^ 52 : Nat) : Int)) := by
  have isExponent := toNat_exponent b
  have isFraction := toNat_fraction b
  have noSign : Sign.ofBitVec (unpackSign b) = .positive := by
    rw [(unpackSign_eq_iff b).2 (small.trans (by decide))]
    rfl
  have notAll := exponent_ne_of_small ((Nat.mod_le _ _).trans_lt small)
  rw [Decimal.infinityBits, Decimal.fractionLimit] at small
  rw [UnpackedFloat.unpack]
  simp only
  rw [if_neg notAll, noSign]
  by_cases noExponent : unpackExponent b = 0#11
  · have few : b.toNat < 2 ^ 52 := by
      have isNone : (unpackExponent b).toNat = 0 := congrArg BitVec.toNat noExponent
      omega
    rw [Nat.mod_eq_of_lt few] at isFraction
    rw [if_pos noExponent]
    by_cases noFraction : unpackMantissa b = 0#52
    · have isZero : (unpackMantissa b).toNat = 0 := congrArg BitVec.toNat noFraction
      rw [dif_pos noFraction, if_pos (isFraction.symm.trans isZero)]
      rfl
    · have nonzero : b.toNat ≠ 0 := fun isZero =>
        noFraction (BitVec.eq_of_toNat_eq (isFraction.trans isZero))
      rw [dif_neg noFraction, if_neg nonzero, if_pos few, ← isFraction, noExponent]
      rfl
  · have many : 2 ^ 52 ≤ b.toNat := by
      by_contra few
      refine noExponent (BitVec.eq_of_toNat_eq ?_)
      rw [isExponent, Nat.div_eq_of_lt (not_le.1 few)]
      rfl
    have isField : (unpackExponent b).toNat = b.toNat / 2 ^ 52 := by omega
    have implicit : (1#1 ++ unpackMantissa b).toNat = 2 ^ 52 + b.toNat % 2 ^ 52 := by
      rw [← isFraction]
      exact toNat_implicit b
    rw [if_neg noExponent, if_neg (by omega), if_neg (not_lt.2 many)]
    show ((1 : Int), ((unpackExponent b).toNat : Int) - 1075,
      ((1#1 ++ unpackMantissa b).toNat : Int)) = _
    rw [isField, implicit]

theorem comparePlaces_unpack_eq_lt_iff {b c : Packed} (small : b.toNat < Decimal.infinityBits)
    (small' : c.toNat < Decimal.infinityBits) :
    comparePlaces (place (UnpackedFloat.unpack Format.binary64 b))
      (place (UnpackedFloat.unpack Format.binary64 c)) = .lt ↔ b.toNat < c.toNat := by
  rw [comparePlaces_eq_lt_iff, place_unpack small, place_unpack small']
  split_ifs <;> simp only [true_and] <;> omega

/-- Of two doubles that are numbers one is not greater just if the other is not less. -/
theorem le_iff_not_lt (isNumber : x.isNaN = false) (isNumber' : y.isNaN = false) :
    x ≤ y ↔ ¬ y < x := by
  have compares : x.toModel.unpack.compare y.toModel.unpack =
      some (comparePlaces (placeOf x) (placeOf y)) := compare_eq_comparePlaces isNumber isNumber'
  have swapped : comparePlaces (placeOf y) (placeOf x) =
      (comparePlaces (placeOf x) (placeOf y)).swap := Std.OrientedCmp.eq_swap
  have isLe : x ≤ y ↔ (x.toModel.unpack.compare y.toModel.unpack).any (·.isLE) = true := by
    show Float.le x y = true ↔ _
    rw [Float.le, decide_eq_true_eq]
    rfl
  rw [isLe, compares, lt_iff isNumber' isNumber, swapped]
  cases comparePlaces (placeOf x) (placeOf y) <;> decide

theorem floatOfBits_lt_iff {m n : Nat} (small : m < Decimal.infinityBits)
    (small' : n < Decimal.infinityBits) :
    Decimal.floatOfBits false m < Decimal.floatOfBits false n ↔ m < n := by
  obtain ⟨isBits, finite⟩ := packed_floatOfBits false small
  obtain ⟨isBits', finite'⟩ := packed_floatOfBits false small'
  rw [if_neg Bool.false_ne_true, Nat.zero_add] at isBits isBits'
  have order := comparePlaces_unpack_eq_lt_iff (isBits ▸ small) (isBits' ▸ small')
  rw [isBits, isBits'] at order
  rw [lt_iff (isNaN_of_isFinite finite) (isNaN_of_isFinite finite'), ← order]
  rfl

theorem floatOfBits_le_iff {m n : Nat} (small : m < Decimal.infinityBits)
    (small' : n < Decimal.infinityBits) :
    Decimal.floatOfBits false m ≤ Decimal.floatOfBits false n ↔ m ≤ n := by
  rw [le_iff_not_lt (isNaN_floatOfBits false small.le) (isNaN_floatOfBits false small'.le),
    floatOfBits_lt_iff small' small, not_lt]

end TableQuery.Double
