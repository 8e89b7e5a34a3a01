import Mathlib
import TableQuery.Decimal.Nearest

/-! # The bits of a double

A finite double is made of its bits: a sign, and bits besides that are less than those of
infinity.  The two zeros are the doubles without bits besides the sign.
-/

namespace TableQuery.Double

open Float.Model Float.Model.UnpackedFloat

/-! ## The fields of the bits -/

/-- The bits of a double in the widths of its three fields. -/
abbrev Packed : Type := BitVec Format.binary64.numBits

theorem toNat_exponent (b : Packed) :
    (unpackExponent b).toNat = b.toNat / 2 ^ 52 % 2 ^ 11 := by
  show (b.toNat >>> 52) % 2 ^ 11 = _
  rw [Nat.shiftRight_eq_div_pow]

theorem toNat_fraction (b : Packed) : (unpackMantissa b).toNat = b.toNat % 2 ^ 52 := by
  show (b.toNat >>> 0) % 2 ^ 52 = _
  rw [Nat.shiftRight_zero]

theorem toBitVec_ofBitVec (v : BitVec 1) : (Sign.ofBitVec v).toBitVec = v := by
  revert v
  decide

theorem packComponents_fields {b : Packed} {exponent : BitVec 11} {fraction : BitVec 52}
    (isExponent : unpackExponent b = exponent) (isFraction : unpackMantissa b = fraction) :
    packComponents Format.binary64 (Sign.ofBitVec (unpackSign b)) exponent fraction = b := by
  subst isExponent isFraction
  rw [packComponents, toBitVec_ofBitVec]
  apply BitVec.eq_of_getElem_eq
  intro i bound
  simp only [unpackSign, unpackExponent, unpackMantissa, BitVec.extractLsb]
  grind

/-! ## Packing what was unpacked -/

theorem log2_eq_of_between {m k : Nat} (atLeast : 2 ^ k ≤ m) (below : m < 2 ^ (k + 1)) :
    m.log2 = k := by
  have nonzero : m ≠ 0 := by
    have := Nat.two_pow_pos k
    omega
  exact (Nat.log2_eq_iff nonzero).2 ⟨atLeast, below⟩

theorem pack_subnormal {b : Packed} (isExponent : unpackExponent b = 0#11)
    (positive : 0 < (unpackMantissa b).toNat) :
    UnpackedFloat.pack Format.binary64 (.finite (Sign.ofBitVec (unpackSign b))
      (unpackMantissa b).toNat (-1074) positive) = b := by
  have bound : (unpackMantissa b).toNat < 2 ^ 52 := (unpackMantissa b).isLt
  have few : (unpackMantissa b).toNat.log2 < 52 := (Nat.log2_lt (by omega)).2 bound
  have notNormal : ¬ (unpackMantissa b).toNat.log2 + 1 = Format.binary64.mantissaBits := by
    show ¬ _ = 53
    omega
  rw [UnpackedFloat.pack]
  simp only [notNormal, if_false]
  rw [if_neg (by decide)]
  exact packComponents_fields isExponent (by simp)

theorem pack_normal {b : Packed} (notAll : (unpackExponent b).toNat ≠ 2047)
    (positive : 0 < 2 ^ 52 + (unpackMantissa b).toNat) :
    UnpackedFloat.pack Format.binary64 (.finite (Sign.ofBitVec (unpackSign b))
      (2 ^ 52 + (unpackMantissa b).toNat) ((unpackExponent b).toNat - 1075) positive) = b := by
  have bound : (unpackMantissa b).toNat < 2 ^ 52 := (unpackMantissa b).isLt
  have range : (unpackExponent b).toNat < 2 ^ 11 := (unpackExponent b).isLt
  have isNormal : (2 ^ 52 + (unpackMantissa b).toNat).log2 + 1 = Format.binary64.mantissaBits := by
    have isPlace : (2 ^ 52 + (unpackMantissa b).toNat).log2 = 52 :=
      log2_eq_of_between (by omega) (by omega)
    rw [isPlace]
    rfl
  have isBiased : ((unpackExponent b).toNat - 1075 + (Format.binary64.exponentBias : Int) +
      (Format.binary64.mantissaBitsWithoutImplicit : Int)).toNat = (unpackExponent b).toNat := by
    show ((unpackExponent b).toNat - 1075 + (1023 : Int) + (52 : Int)).toNat = _
    omega
  rw [UnpackedFloat.pack]
  simp only [isNormal, isBiased, if_true]
  rw [if_neg (by show ¬ 2 ^ 11 ≤ _; omega)]
  refine packComponents_fields (by simp) ?_
  apply BitVec.eq_of_toNat_eq
  show _ = (2 ^ 52 + (unpackMantissa b).toNat) % 2 ^ 52
  omega

theorem toNat_implicit (b : Packed) :
    (1#1 ++ unpackMantissa b).toNat = 2 ^ 52 + (unpackMantissa b).toNat := by
  show 2 ^ 52 ||| (unpackMantissa b).toNat = _
  rw [Nat.or_comm, Nat.or_two_pow_eq_add_of_lt (unpackMantissa b).isLt, Nat.add_comm]

theorem pack_unpack {b : Packed}
    (finite : (UnpackedFloat.unpack Format.binary64 b).isFinite = true) :
    UnpackedFloat.pack Format.binary64 (UnpackedFloat.unpack Format.binary64 b) = b := by
  rw [UnpackedFloat.unpack] at finite ⊢
  simp only at finite ⊢
  split at finite
  · -- With all bits of the exponent set, the double is infinite or no number.
    split at finite <;> cases finite
  · next notAll =>
    have notAll' : (unpackExponent b).toNat ≠ 2047 := fun same =>
      notAll (BitVec.eq_of_toNat_eq same)
    rw [if_neg notAll]
    by_cases isZero : unpackExponent b = 0#11
    · rw [if_pos isZero]
      by_cases noFraction : unpackMantissa b = 0#52
      · rw [dif_pos noFraction]
        exact packComponents_fields isZero noFraction
      · rw [dif_neg noFraction]
        have isLeast : ((unpackExponent b).toNat : Int) - (Format.binary64.exponentBias +
            Format.binary64.mantissaBitsWithoutImplicit) + 1 = -1074 := by
          rw [isZero]
          rfl
        simp only [isLeast]
        exact pack_subnormal isZero _
    · -- A normal double has one more digit than its fraction keeps.
      rw [if_neg isZero]
      have isPlace : ((unpackExponent b).toNat : Int) - (Format.binary64.exponentBias +
          Format.binary64.mantissaBitsWithoutImplicit) = (unpackExponent b).toNat - 1075 := rfl
      simp only [toNat_implicit b, isPlace]
      exact pack_normal notAll' _

/-! ## Doubles -/

/-- The bits of a double besides its sign. -/
def magnitude (x : Float) : Nat := x.toBits.toNat % Decimal.signBits

/-- The bits of a double in the widths of its fields. -/
def packed (x : Float) : Packed := x.toBits.toBitVec

theorem toNat_packed (x : Float) : (packed x).toNat = x.toBits.toNat := rfl

variable {x : Float}

theorem ofBits_toBits (finite : x.isFinite = true) : Float.ofBits x.toBits = x := by
  have same : UnpackedFloat.pack Format.binary64 (UnpackedFloat.unpack Format.binary64 (packed x)) =
      packed x := pack_unpack finite
  obtain ⟨bits, valid⟩ := x
  show Float.ofModel (Float.Model.pack (UnpackedFloat.unpack Format.binary64 bits.toBitVec)) = _
  simp only [Float.Model.pack]
  congr 2
  exact congrArg UInt64.ofBitVec same

theorem exponent_ne_of_isFinite (finite : x.isFinite = true) :
    (unpackExponent (packed x)).toNat ≠ 2047 := by
  intro isAll
  have isExponent : unpackExponent (packed x) = -1#11 := BitVec.eq_of_toNat_eq isAll
  have unpacked : (UnpackedFloat.unpack Format.binary64 (packed x)).isFinite = true := finite
  rw [UnpackedFloat.unpack] at unpacked
  simp only at unpacked
  rw [if_pos isExponent] at unpacked
  split at unpacked <;> cases unpacked

theorem exponent_eq_of_infinite (infinite : x.isFinite = false) :
    unpackExponent (packed x) = -1#11 := by
  by_contra notAll
  have unpacked : (UnpackedFloat.unpack Format.binary64 (packed x)).isFinite = false := infinite
  rw [UnpackedFloat.unpack] at unpacked
  simp only at unpacked
  rw [if_neg notAll] at unpacked
  split at unpacked
  · split at unpacked <;> cases unpacked
  · cases unpacked

theorem magnitude_lt_infinityBits (finite : x.isFinite = true) :
    magnitude x < Decimal.infinityBits := by
  have notAll := exponent_ne_of_isFinite finite
  rw [toNat_exponent, toNat_packed] at notAll
  show x.toBits.toNat % 0x8000000000000000 < 2047 * 0x10000000000000
  omega

theorem floatOfBits_magnitude (finite : x.isFinite = true) :
    Decimal.floatOfBits (Decimal.signBits ≤ x.toBits.toNat) (magnitude x) = x := by
  have isSum : (if decide (Decimal.signBits ≤ x.toBits.toNat) = true then Decimal.signBits else 0) +
      magnitude x = x.toBits.toNat := by
    have bound : x.toBits.toNat < 2 ^ 64 := x.toBits.toNat_lt
    rw [magnitude, Decimal.signBits]
    simp only [decide_eq_true_eq]
    split <;> omega
  rw [Decimal.floatOfBits, isSum, Nat.toUInt64_eq, UInt64.ofNat_toNat, ofBits_toBits finite]

/-! ## Zero -/

theorem magnitude_eq_zero_iff :
    magnitude x = 0 ↔ unpackExponent (packed x) = 0#11 ∧ unpackMantissa (packed x) = 0#52 := by
  have isExponent := toNat_exponent (packed x)
  have isFraction := toNat_fraction (packed x)
  rw [toNat_packed] at isExponent isFraction
  rw [← BitVec.toNat_inj, ← BitVec.toNat_inj, isExponent, isFraction, magnitude, Decimal.signBits]
  simp only [BitVec.toNat_ofNat, Nat.zero_mod]
  omega

/-- A finite double equals zero just if it has no bits besides its sign. -/
theorem beq_zero_iff (finite : x.isFinite = true) : (x == 0) = true ↔ magnitude x = 0 := by
  -- Zero is compared by its kind, so only the unpacked form of `x` has to be told apart.
  have isBeq : (x == 0) =
      (UnpackedFloat.unpack Format.binary64 (packed x)).beq (.zero .positive) := rfl
  have notAll : ¬ unpackExponent (packed x) = -1#11 := fun same =>
    exponent_ne_of_isFinite finite (congrArg BitVec.toNat same)
  rw [isBeq, magnitude_eq_zero_iff, UnpackedFloat.unpack]
  simp only
  rw [if_neg notAll]
  by_cases isZero : unpackExponent (packed x) = 0#11
  · rw [if_pos isZero]
    by_cases noFraction : unpackMantissa (packed x) = 0#52
    · rw [dif_pos noFraction]
      simp [isZero, noFraction, UnpackedFloat.beq, UnpackedFloat.compare]
    · rw [dif_neg noFraction]
      cases Sign.ofBitVec (unpackSign (packed x)) <;>
        simp [noFraction, UnpackedFloat.beq, UnpackedFloat.compare]
  · rw [if_neg isZero]
    cases Sign.ofBitVec (unpackSign (packed x)) <;>
      simp [isZero, UnpackedFloat.beq, UnpackedFloat.compare]

/-! ## Doubles made of bits -/

theorem exponent_ne_of_small {b : Packed}
    (small : b.toNat % Decimal.signBits < Decimal.infinityBits) : ¬ unpackExponent b = -1#11 := by
  rw [Decimal.infinityBits, Decimal.fractionLimit, Decimal.signBits] at small
  intro isAll
  have isAll' : (unpackExponent b).toNat = 2047 := congrArg BitVec.toNat isAll
  rw [toNat_exponent] at isAll'
  omega

theorem isFinite_unpack {b : Packed} (small : b.toNat % Decimal.signBits < Decimal.infinityBits) :
    (UnpackedFloat.unpack Format.binary64 b).isFinite = true := by
  rw [UnpackedFloat.unpack]
  simp only
  rw [if_neg (exponent_ne_of_small small)]
  split
  · split <;> rfl
  · rfl

theorem packed_floatOfBits (negative : Bool) {bits : Nat} (below : bits < Decimal.infinityBits) :
    (packed (Decimal.floatOfBits negative bits)).toNat =
        (if negative then Decimal.signBits else 0) + bits ∧
      (Decimal.floatOfBits negative bits).isFinite = true := by
  have isBits : ((if negative then Decimal.signBits else 0) + bits).toUInt64.toBitVec.toNat =
      (if negative then Decimal.signBits else 0) + bits := by
    rw [Decimal.infinityBits, Decimal.fractionLimit] at below
    show ((if negative then Decimal.signBits else 0) + bits) % 2 ^ 64 = _
    rw [Decimal.signBits]
    split <;> omega
  have finite : (UnpackedFloat.unpack Format.binary64
      ((if negative then Decimal.signBits else 0) + bits).toUInt64.toBitVec).isFinite = true := by
    apply isFinite_unpack
    rw [isBits]
    rw [Decimal.infinityBits, Decimal.fractionLimit] at *
    rw [Decimal.signBits]
    split <;> omega
  have isPacked : packed (Decimal.floatOfBits negative bits) =
      ((if negative then Decimal.signBits else 0) + bits).toUInt64.toBitVec := pack_unpack finite
  refine ⟨by rw [isPacked, isBits], ?_⟩
  show (UnpackedFloat.unpack Format.binary64
    (packed (Decimal.floatOfBits negative bits))).isFinite = _
  rw [isPacked, finite]

theorem isNaN_of_isFinite (finite : x.isFinite = true) : x.isNaN = false := by
  change x.toModel.unpack.isFinite = true at finite
  change x.toModel.unpack.isNaN = false
  cases isUnpacked : x.toModel.unpack with
  | notANumber =>
    rw [isUnpacked] at finite
    cases finite
  | _ => rfl

theorem isNaN_floatOfBits (negative : Bool) {bits : Nat} (small : bits ≤ Decimal.infinityBits) :
    (Decimal.floatOfBits negative bits).isNaN = false := by
  by_cases below : bits < Decimal.infinityBits
  · exact isNaN_of_isFinite (packed_floatOfBits negative below).2
  · have isInfinite : bits = Decimal.infinityBits := by omega
    subst isInfinite
    cases negative <;> rfl

/-! ## Doubles without a sign -/

/-- Is this zero or more, and a number? -/
def IsUnsigned : UnpackedFloat → Prop
  | .notANumber => False
  | .infinity sign | .zero sign | .finite sign _ _ _ => sign = .positive

theorem IsUnsigned.zero_le {u : UnpackedFloat} (isUnsigned : IsUnsigned u) :
    u.isNaN = false ∧ UnpackedFloat.le (.zero .positive) u = true := by
  cases u with
  | notANumber => exact isUnsigned.elim
  | infinity sign =>
    obtain rfl : sign = .positive := isUnsigned
    exact ⟨rfl, rfl⟩
  | zero sign => exact ⟨rfl, rfl⟩
  | finite sign mantissa exponent positive =>
    obtain rfl : sign = .positive := isUnsigned
    exact ⟨rfl, rfl⟩

theorem isUnsigned_unpack {b : Packed} (small : b.toNat < Decimal.infinityBits) :
    IsUnsigned (UnpackedFloat.unpack Format.binary64 b) := by
  have noSign : b.toNat % Decimal.signBits < Decimal.infinityBits :=
    (Nat.mod_le _ _).trans_lt small
  have isPositive : Sign.ofBitVec (unpackSign b) = .positive := by
    rw [Decimal.infinityBits, Decimal.fractionLimit] at small
    have isSign : unpackSign b = 0#1 := by
      apply BitVec.eq_of_toNat_eq
      show (b.toNat >>> 63) % 2 ^ 1 = 0
      rw [Nat.shiftRight_eq_div_pow]
      omega
    rw [isSign]
    rfl
  rw [UnpackedFloat.unpack]
  simp only
  rw [if_neg (exponent_ne_of_small noSign), isPositive]
  split
  · split <;> exact rfl
  · exact rfl

theorem isUnsigned_floatOfBits {bits : Nat} (small : bits ≤ Decimal.infinityBits) :
    IsUnsigned
      (UnpackedFloat.unpack Format.binary64 (packed (Decimal.floatOfBits false bits))) := by
  rcases Nat.lt_or_eq_of_le small with below | rfl
  · exact isUnsigned_unpack (by simpa [(packed_floatOfBits false below).1] using below)
  · exact rfl

theorem toBits_le_infinityBits (d : Decimal) : d.toBits ≤ Decimal.infinityBits := by
  have quotient_le : ∀ num den, Decimal.bitsOfQuotient num den ≤ Decimal.infinityBits := by
    intro num den
    rw [Decimal.bitsOfQuotient]
    split
    · exact Nat.zero_le _
    · exact Nat.min_le_right _ _
  rw [Decimal.toBits]
  split
  · exact Nat.zero_le _
  · split
    · split
      · exact Nat.le_refl _
      · exact quotient_le _ _
    · split
      · exact Nat.zero_le _
      · exact quotient_le _ _

/-- The double of a decimal without a sign is a number that is not negative. -/
theorem zero_le_toFloat (d : Decimal) : (d.toFloat false).isNaN = false ∧ 0 ≤ d.toFloat false := by
  have isUnsigned := isUnsigned_floatOfBits (toBits_le_infinityBits d)
  rw [← Decimal.toFloat] at isUnsigned
  generalize d.toFloat false = x at isUnsigned ⊢
  obtain ⟨isNumber, isLe⟩ := isUnsigned.zero_le
  refine ⟨isNumber, ?_⟩
  show Float.le 0 x = true
  rw [Float.le, decide_eq_true_eq]
  exact isLe

end TableQuery.Double
