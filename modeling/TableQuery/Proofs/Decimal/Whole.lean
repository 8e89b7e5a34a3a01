import TableQuery.Cell
import TableQuery.Proofs.Decimal.Bits
import TableQuery.Proofs.Decimal.Value
import TableQuery.Proofs.Numeral.ReadBack

/-! # Whole numbers

A finite double has a value.  Where that is a whole number up to which doubles have no gaps,
the double is told to be that number, and the double that is nearest to the number is the
double again, but that zero has no sign.
-/

namespace TableQuery

theorem Binary.num_div_den (b : Binary) :
    (b.num : ℚ) / b.den = b.units * (2 : ℚ) ^ b.place := by
  rw [Binary.num, Binary.den, Decimal.two_zpow_eq_div, Nat.shiftLeft_eq, Nat.shiftLeft_eq]
  push_cast
  rw [one_mul, mul_div_assoc]

theorem Binary.den_pos (b : Binary) : 0 < b.den := Decimal.shiftLeft_pos one_pos _

namespace Double

open Float.Model Float.Model.UnpackedFloat

variable {x : Float} {n : Int}

/-- The value of a finite double without its sign. -/
def absValue (x : Float) : ℚ :=
  (Binary.ofBits (magnitude x)).units * (2 : ℚ) ^ (Binary.ofBits (magnitude x)).place

/-- The value of a finite double. -/
def value (x : Float) : ℚ := if Decimal.signBits ≤ x.toBits.toNat then -absValue x else absValue x

theorem absValue_nonneg (x : Float) : 0 ≤ absValue x := by
  rw [absValue]
  positivity

theorem absValue_eq_of_value (isValue : value x = n) : absValue x = n.natAbs := by
  have atLeastZero := absValue_nonneg x
  rw [Nat.cast_natAbs, Int.cast_abs, ← isValue, value]
  split
  · rw [abs_neg, abs_of_nonneg atLeastZero]
  · rw [abs_of_nonneg atLeastZero]

/-- The sign of a whole number is that of the double, unless it is zero. -/
theorem eq_of_value (isValue : value x = n) :
    n = if Decimal.signBits ≤ x.toBits.toNat then -(n.natAbs : Int) else n.natAbs := by
  have isAbs := absValue_eq_of_value isValue
  rw [← Int.cast_inj (α := ℚ), ← isValue, value, isAbs]
  split <;> simp

/-- A double whose value is a whole number without gaps is told to be that number. -/
theorem whole?_of_value (finite : x.isFinite = true) (isValue : value x = n)
    (small : n.natAbs ≤ Cell.wholeLimit) : Cell.whole? x = some n := by
  have below := magnitude_lt_infinityBits finite
  have denPos := Binary.den_pos (Binary.ofBits (magnitude x))
  have isNum : (Binary.ofBits (magnitude x)).num =
      n.natAbs * (Binary.ofBits (magnitude x)).den := by
    have isQuotient := absValue_eq_of_value isValue
    rw [absValue, ← Binary.num_div_den, div_eq_iff (by positivity)] at isQuotient
    exact_mod_cast isQuotient
  rw [magnitude] at below isNum denPos
  rw [Cell.whole?]
  simp only
  rw [if_neg (by omega), isNum, Nat.mul_mod_left, Nat.mul_div_cancel _ denPos,
    if_pos ⟨rfl, small⟩, ← eq_of_value isValue]

theorem value_of_whole? (isWhole : Cell.whole? x = some n) :
    n.natAbs ≤ Cell.wholeLimit ∧ value x = n := by
  rw [Cell.whole?] at isWhole
  simp only at isWhole
  split at isWhole
  · cases isWhole
  split at isWhole
  · next condition =>
    obtain ⟨divides, small⟩ := condition
    obtain ⟨k, isProduct⟩ := Nat.dvd_of_mod_eq_zero divides
    have denPos := Binary.den_pos (Binary.ofBits (magnitude x))
    rw [magnitude] at denPos
    rw [isProduct, Nat.mul_div_cancel_left _ denPos] at isWhole small
    have isAbs : absValue x = k := by
      rw [absValue, ← Binary.num_div_den, magnitude, isProduct, Nat.cast_mul,
        mul_div_cancel_left₀ _ (by positivity)]
    obtain rfl := Option.some.inj isWhole
    rw [value, isAbs]
    split <;> exact ⟨by simpa using small, by simp⟩
  · cases isWhole

/-- The double nearest to the value of a double is that double, but that zero has no sign. -/
theorem toFloat_of_value (finite : x.isFinite = true) (isValue : value x = n) :
    Decimal.toFloat (n < 0) ⟨n.natAbs, 0⟩ = Numeral.withoutZeroSign x := by
  have isBits : Decimal.toBits ⟨n.natAbs, 0⟩ = magnitude x := by
    have isAbs : ((n.natAbs : Nat) : ℚ) / ((1 : Nat) : ℚ) = absValue x := by
      rw [Nat.cast_one, div_one, absValue_eq_of_value isValue]
    have isQuotient : Decimal.value ⟨n.natAbs, 0⟩ = ((n.natAbs : Nat) : ℚ) / ((1 : Nat) : ℚ) := by
      simp [Decimal.value]
    rw [Decimal.toBits_eq_bitsOfQuotient one_pos isQuotient]
    exact Decimal.bitsOfQuotient_of_value (magnitude_lt_infinityBits finite) one_pos isAbs
  have isDouble := floatOfBits_magnitude finite
  rw [Decimal.toFloat, isBits, Numeral.withoutZeroSign]
  simp only [beq_zero_iff finite]
  split
  · next noBits =>
    have isZero : n.natAbs = 0 := by
      have isAbs := absValue_eq_of_value isValue
      have noUnits : (Binary.ofBits 0).units = 0 := rfl
      rw [absValue, noBits, noUnits, Nat.cast_zero, zero_mul] at isAbs
      exact_mod_cast isAbs.symm
    rw [noBits, Int.natAbs_eq_zero.1 isZero]
    rfl
  · next someBits =>
    have isNonzero : n.natAbs ≠ 0 := fun isZero => someBits (by rw [← isBits, isZero]; rfl)
    have sameSign : n < 0 ↔ Decimal.signBits ≤ x.toBits.toNat := by
      have isSigned := eq_of_value isValue
      split at isSigned <;> omega
    simpa only [sameSign] using isDouble

/-! ## Doubles that are not finite -/

theorem infinityBits_le_magnitude (infinite : x.isFinite = false) :
    Decimal.infinityBits ≤ magnitude x := by
  have isExponent := toNat_exponent (packed x)
  rw [exponent_eq_of_infinite infinite, toNat_packed] at isExponent
  rw [magnitude, Decimal.infinityBits, Decimal.fractionLimit, Decimal.signBits]
  simp only [BitVec.toNat_neg, BitVec.toNat_ofNat] at isExponent
  omega

theorem whole?_of_infinite (infinite : x.isFinite = false) : Cell.whole? x = none := by
  have above := infinityBits_le_magnitude infinite
  rw [magnitude] at above
  rw [Cell.whole?]
  simp only
  rw [if_pos above]

end Double

end TableQuery
