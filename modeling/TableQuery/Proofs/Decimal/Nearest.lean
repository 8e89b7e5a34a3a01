import Mathlib.Data.Rat.Lemmas
import Mathlib.Algebra.Order.Field.Power
import Mathlib.Tactic.Linarith
import Mathlib.Tactic.NormNum
import Mathlib.Tactic.Positivity
import Mathlib.Tactic.Ring
import TableQuery.Decimal.Shortest

/-! # The nearest double depends on the value alone

A quotient of naturals and a decimal are turned into bits by arithmetic on their numerators
and denominators.  Nothing but the value of the quotient counts: equal quotients have equal
bits, and the limits that spare large powers of ten change no result.
-/

namespace TableQuery.Decimal

variable {num den num' den' : Nat}

/-! ## Rounding -/

theorem roundHalfEven_mul_left {c : Nat} (positive : 0 < c) (num den : Nat) :
    roundHalfEven (c * num) (c * den) = roundHalfEven num den := by
  have less : 2 * (c * (num % den)) < c * den ↔ 2 * (num % den) < den := by
    rw [Nat.mul_left_comm, Nat.mul_lt_mul_left positive]
  have more : c * den < 2 * (c * (num % den)) ↔ den < 2 * (num % den) := by
    rw [Nat.mul_left_comm, Nat.mul_lt_mul_left positive]
  simp only [roundHalfEven, Nat.mul_div_mul_left _ _ positive, Nat.mul_mod_mul_left, less, more]

theorem roundHalfEven_congr (positive : 0 < den) (positive' : 0 < den')
    (same : (num : ℚ) / den = num' / den') :
    roundHalfEven num den = roundHalfEven num' den' := by
  have nonzero : (den : ℚ) ≠ 0 := by positivity
  have nonzero' : (den' : ℚ) ≠ 0 := by positivity
  have cross : num * den' = num' * den := by
    rw [div_eq_div_iff nonzero nonzero'] at same
    exact_mod_cast same
  calc roundHalfEven num den
      = roundHalfEven (den' * num) (den' * den) := (roundHalfEven_mul_left positive' ..).symm
    _ = roundHalfEven (den * num') (den * den') := by
        rw [Nat.mul_comm den' num, cross, Nat.mul_comm num' den, Nat.mul_comm den' den]
    _ = roundHalfEven num' den' := roundHalfEven_mul_left positive ..

theorem div_le_roundHalfEven (num den : Nat) : num / den ≤ roundHalfEven num den := by
  rw [roundHalfEven]
  split
  · exact Nat.le_refl _
  · split <;> omega

theorem roundHalfEven_eq_zero (small : 2 * num < den) : roundHalfEven num den = 0 := by
  have isZero : num / den = 0 := Nat.div_eq_of_lt (by omega)
  have isRem : num % den = num := Nat.mod_eq_of_lt (by omega)
  simp [roundHalfEven, isZero, isRem, small]

/-! ## Places -/

theorem two_zpow_eq_div (g : Int) :
    (2 : ℚ) ^ g = ((2 ^ g.toNat : Nat) : ℚ) / ((2 ^ (-g).toNat : Nat) : ℚ) := by
  cases Int.le_total 0 g with
  | inl nonneg =>
    obtain ⟨k, rfl⟩ := Int.eq_ofNat_of_zero_le nonneg
    simp
  | inr nonpos =>
    obtain ⟨k, isNeg⟩ := Int.eq_ofNat_of_zero_le (Int.neg_nonneg.2 nonpos)
    obtain rfl : g = -(k : Int) := by omega
    simp

/-- Is this the power of two over which the quotient has 53 binary digits? -/
def IsPlace (q : ℚ) (place : Int) : Prop :=
  (2 : ℚ) ^ (place + 52) ≤ q ∧ q < (2 : ℚ) ^ (place + 53)

theorem IsPlace.unique {q : ℚ} {place place' : Int} (isPlace : IsPlace q place)
    (isPlace' : IsPlace q place') : place = place' := by
  have base : (1 : ℚ) < 2 := one_lt_two
  have below := (zpow_lt_zpow_iff_right₀ base).1 (isPlace.1.trans_lt isPlace'.2)
  have above := (zpow_lt_zpow_iff_right₀ base).1 (isPlace'.1.trans_lt isPlace.2)
  omega

/-- The test for a power of two that is too great, as a statement on the quotient. -/
theorem shiftLeft_lt_shiftLeft_iff (positive : 0 < den) (g : Int) :
    num <<< (-g).toNat < (fractionLimit * den) <<< g.toNat ↔
      (num : ℚ) / den < (2 : ℚ) ^ (g + 52) := by
  have denPos : (0 : ℚ) < den := by exact_mod_cast positive
  have powPos : (0 : ℚ) < ((2 ^ (-g).toNat : Nat) : ℚ) := by positivity
  have isLimit : (fractionLimit : ℚ) = (2 : ℚ) ^ (52 : Int) := by norm_num [fractionLimit]
  rw [zpow_add₀ two_ne_zero, two_zpow_eq_div, ← isLimit, div_mul_eq_mul_div,
    div_lt_div_iff₀ denPos powPos, Nat.shiftLeft_eq, Nat.shiftLeft_eq, ← Nat.cast_lt (α := ℚ)]
  push_cast
  constructor
  · intro less
    linarith
  · intro less
    linarith

theorem two_zpow_log2_le {n : Nat} (nonzero : n ≠ 0) : (2 : ℚ) ^ (n.log2 : Int) ≤ n := by
  rw [zpow_natCast]
  exact_mod_cast Nat.log2_self_le nonzero

theorem lt_two_zpow_log2 (n : Nat) : (n : ℚ) < (2 : ℚ) ^ ((n.log2 : Int) + 1) := by
  have less : n < 2 ^ (n.log2 + 1) := Nat.lt_log2_self
  exact_mod_cast less

/-- The place that the digits of a quotient begin at. -/
def topPlace (num den : Nat) : Int :=
  let guess : Int := (num.log2 : Int) - den.log2 - 52
  if num <<< (-guess).toNat < (fractionLimit * den) <<< guess.toNat then guess - 1 else guess

theorem binaryPlace_eq_max (num den : Nat) :
    binaryPlace num den = max (topPlace num den) leastPlace := rfl

/-- The quotient has 53 binary digits over the place that they begin at. -/
theorem isPlace_topPlace (positive : 0 < num) (positive' : 0 < den) :
    IsPlace ((num : ℚ) / den) (topPlace num den) := by
  have denPos : (0 : ℚ) < den := by exact_mod_cast positive'
  have numLow := two_zpow_log2_le positive.ne'
  have numHigh := lt_two_zpow_log2 num
  have denLow := two_zpow_log2_le positive'.ne'
  have denHigh := lt_two_zpow_log2 den
  have low : (2 : ℚ) ^ ((num.log2 : Int) - den.log2 - 1) ≤ num / den := by
    rw [le_div_iff₀ denPos]
    calc (2 : ℚ) ^ ((num.log2 : Int) - den.log2 - 1) * den
        ≤ (2 : ℚ) ^ ((num.log2 : Int) - den.log2 - 1) * (2 : ℚ) ^ ((den.log2 : Int) + 1) := by
          gcongr
      _ = (2 : ℚ) ^ (num.log2 : Int) := by
          rw [← zpow_add₀ two_ne_zero]
          congr 1
          omega
      _ ≤ num := numLow
  have high : (num : ℚ) / den < (2 : ℚ) ^ ((num.log2 : Int) - den.log2 + 1) := by
    rw [div_lt_iff₀ denPos]
    calc (num : ℚ) < (2 : ℚ) ^ ((num.log2 : Int) + 1) := numHigh
      _ = (2 : ℚ) ^ ((num.log2 : Int) - den.log2 + 1) * (2 : ℚ) ^ (den.log2 : Int) := by
          rw [← zpow_add₀ two_ne_zero]
          congr 1
          omega
      _ ≤ (2 : ℚ) ^ ((num.log2 : Int) - den.log2 + 1) * den := by gcongr
  rw [topPlace]
  simp only [shiftLeft_lt_shiftLeft_iff positive']
  split
  · next less =>
    refine ⟨?_, ?_⟩
    · convert low using 2
      omega
    · convert less using 2
      omega
  · next notLess =>
    refine ⟨not_lt.1 notLess, ?_⟩
    convert high using 2
    omega

theorem topPlace_eq (positive : 0 < num) (positive' : 0 < den) {place : Int}
    (isPlace : IsPlace ((num : ℚ) / den) place) : topPlace num den = place :=
  (isPlace_topPlace positive positive').unique isPlace

/-! ## Bits of quotients -/

theorem cast_shiftLeft_div (num den : Nat) (place : Int) :
    ((num <<< (-place).toNat : Nat) : ℚ) / ((den <<< place.toNat : Nat) : ℚ) =
      (num : ℚ) / den / (2 : ℚ) ^ place := by
  rw [two_zpow_eq_div, Nat.shiftLeft_eq, Nat.shiftLeft_eq]
  push_cast
  rw [div_div_div_eq, mul_comm (den : ℚ)]

theorem shiftLeft_pos {n : Nat} (positive : 0 < n) (k : Nat) : 0 < n <<< k := by
  rw [Nat.shiftLeft_eq]
  positivity

theorem bitsOfQuotient_congr (positive : 0 < den) (positive' : 0 < den')
    (same : (num : ℚ) / den = num' / den') : bitsOfQuotient num den = bitsOfQuotient num' den' := by
  have denNonzero : (den : ℚ) ≠ 0 := by positivity
  have denNonzero' : (den' : ℚ) ≠ 0 := by positivity
  by_cases isZero : num = 0
  · have isZero' : num' = 0 := by
      rw [isZero, Nat.cast_zero, zero_div, eq_comm, div_eq_zero_iff] at same
      exact_mod_cast same.resolve_right denNonzero'
    rw [isZero, isZero', bitsOfQuotient, bitsOfQuotient, if_pos rfl, if_pos rfl]
  · have isNonzero' : num' ≠ 0 := by
      rintro rfl
      rw [Nat.cast_zero, zero_div, div_eq_zero_iff] at same
      exact isZero (by exact_mod_cast same.resolve_right denNonzero)
    have numPos : 0 < num := Nat.pos_of_ne_zero isZero
    have numPos' : 0 < num' := Nat.pos_of_ne_zero isNonzero'
    have samePlace : binaryPlace num den = binaryPlace num' den' := by
      rw [binaryPlace_eq_max, binaryPlace_eq_max,
        topPlace_eq numPos positive (same ▸ isPlace_topPlace numPos' positive')]
    have sameUnits : ∀ place : Int,
        roundHalfEven (num <<< (-place).toNat) (den <<< place.toNat) =
          roundHalfEven (num' <<< (-place).toNat) (den' <<< place.toNat) := by
      intro place
      refine roundHalfEven_congr (shiftLeft_pos positive _) (shiftLeft_pos positive' _) ?_
      rw [cast_shiftLeft_div, cast_shiftLeft_div, same]
    rw [bitsOfQuotient, bitsOfQuotient, if_neg isZero, if_neg isNonzero']
    simp only [samePlace, sameUnits]

theorem bitsOfQuotient_of_pos (positive : 0 < num) :
    bitsOfQuotient num den = min ((binaryPlace num den - leastPlace).toNat * fractionLimit +
      roundHalfEven (num <<< (-binaryPlace num den).toNat) (den <<< (binaryPlace num den).toNat))
      infinityBits := by
  rw [bitsOfQuotient, if_neg positive.ne']

theorem num_pos_of_lt {q : ℚ} (positive : 0 < q) (isQuotient : (num : ℚ) / den = q) : 0 < num := by
  rw [Nat.pos_iff_ne_zero]
  rintro rfl
  rw [Nat.cast_zero, zero_div] at isQuotient
  exact positive.ne isQuotient

/-- Over the place that its digits begin at a quotient keeps all its digits. -/
theorem fractionLimit_le_roundHalfEven (numPos : 0 < num) (positive : 0 < den) :
    fractionLimit ≤ roundHalfEven (num <<< (-topPlace num den).toNat)
      (den <<< (topPlace num den).toNat) := by
  obtain ⟨atLeast, -⟩ := isPlace_topPlace numPos positive
  have denPos := shiftLeft_pos positive (topPlace num den).toNat
  have scaled : (fractionLimit : ℚ) ≤ ((num <<< (-topPlace num den).toNat : Nat) : ℚ) /
      ((den <<< (topPlace num den).toNat : Nat) : ℚ) := by
    rw [cast_shiftLeft_div, le_div_iff₀ (by positivity)]
    calc (fractionLimit : ℚ) * (2 : ℚ) ^ topPlace num den
        = (2 : ℚ) ^ (topPlace num den + 52) := by
          rw [zpow_add₀ two_ne_zero, mul_comm]
          norm_num [fractionLimit]
      _ ≤ num / den := atLeast
  refine Nat.le_trans ?_ (div_le_roundHalfEven _ _)
  rw [Nat.le_div_iff_mul_le denPos]
  rw [le_div_iff₀ (by exact_mod_cast denPos)] at scaled
  exact_mod_cast scaled

theorem bitsOfQuotient_eq_infinityBits (positive : 0 < den)
    (great : (2 : ℚ) ^ (1024 : Int) ≤ num / den) : bitsOfQuotient num den = infinityBits := by
  have numPos : 0 < num := num_pos_of_lt (lt_of_lt_of_le (by positivity) great) rfl
  obtain ⟨atLeast, below⟩ := isPlace_topPlace numPos positive
  have high := (zpow_lt_zpow_iff_right₀ one_lt_two).1 (great.trans_lt below)
  have isTop : binaryPlace num den = topPlace num den := by
    rw [binaryPlace_eq_max, leastPlace]
    omega
  have units := fractionLimit_le_roundHalfEven numPos positive
  rw [bitsOfQuotient_of_pos numPos, isTop]
  apply Nat.min_eq_right
  have places : 2046 ≤ (topPlace num den - leastPlace).toNat := by
    rw [leastPlace]
    omega
  have product := Nat.mul_le_mul_right fractionLimit places
  rw [infinityBits]
  omega

theorem bitsOfQuotient_eq_zero (positive : 0 < den)
    (small : (num : ℚ) / den < (2 : ℚ) ^ (-1075 : Int)) : bitsOfQuotient num den = 0 := by
  rcases Nat.eq_zero_or_pos num with rfl | numPos
  · rfl
  obtain ⟨atLeast, -⟩ := isPlace_topPlace numPos positive
  have low := (zpow_lt_zpow_iff_right₀ one_lt_two).1 (atLeast.trans_lt small)
  have isLeast : binaryPlace num den = leastPlace := by
    rw [binaryPlace_eq_max, leastPlace]
    omega
  have units : roundHalfEven (num <<< (-leastPlace).toNat) (den <<< leastPlace.toNat) = 0 := by
    apply roundHalfEven_eq_zero
    have denPos := shiftLeft_pos positive leastPlace.toNat
    have half : ((num <<< (-leastPlace).toNat : Nat) : ℚ) / ((den <<< leastPlace.toNat : Nat) : ℚ) <
        1 / 2 := by
      rw [cast_shiftLeft_div, div_lt_iff₀ (by positivity)]
      calc (num : ℚ) / den < (2 : ℚ) ^ (-1075 : Int) := small
        _ = (2 : ℚ) ^ (-1 + leastPlace) := rfl
        _ = 1 / 2 * (2 : ℚ) ^ leastPlace := by
          rw [zpow_add₀ two_ne_zero, zpow_neg_one, one_div]
    rw [div_lt_iff₀ (by exact_mod_cast denPos)] at half
    rw [← Nat.cast_lt (α := ℚ)]
    push_cast at half ⊢
    linarith
  rw [bitsOfQuotient_of_pos numPos, isLeast, units]
  simp

/-! ## Bits of doubles -/

/-- Finite bits are made of a place and of units of it, of which there are as many as a double
    can hold unless the place is the least. -/
theorem ofBits_spec {bits : Nat} (finite : bits < infinityBits) :
    (Binary.ofBits bits).units < 2 * fractionLimit ∧ leastPlace ≤ (Binary.ofBits bits).place ∧
      (fractionLimit ≤ (Binary.ofBits bits).units ∨ (Binary.ofBits bits).place = leastPlace) ∧
      ((Binary.ofBits bits).place - leastPlace).toNat * fractionLimit + (Binary.ofBits bits).units =
        bits := by
  by_cases subnormal : bits / fractionLimit % 2048 = 0
  · have isBinary : Binary.ofBits bits = ⟨bits % fractionLimit, leastPlace⟩ := by
      rw [Binary.ofBits, if_pos subnormal]
    rw [isBinary]
    simp only [fractionLimit, infinityBits, leastPlace, sub_self, Int.toNat_zero] at *
    exact ⟨by omega, Int.le_refl _, .inr trivial, by omega⟩
  · have isBinary : Binary.ofBits bits = ⟨fractionLimit + bits % fractionLimit,
        (bits / fractionLimit % 2048 : Nat) - 1 + leastPlace⟩ := by
      rw [Binary.ofBits, if_neg subnormal]
    rw [isBinary]
    simp only [fractionLimit, infinityBits, leastPlace] at *
    omega

theorem bitsOfQuotient_of_value {bits : Nat} (finite : bits < infinityBits) (positive : 0 < den)
    (same : (num : ℚ) / den =
      (Binary.ofBits bits).units * (2 : ℚ) ^ (Binary.ofBits bits).place) :
    bitsOfQuotient num den = bits := by
  obtain ⟨fewUnits, placeLow, canonical, isSum⟩ := ofBits_spec finite
  generalize Binary.ofBits bits = b at *
  rcases Nat.eq_zero_or_pos b.units with isZero | unitsPos
  · have isLeast : b.place = leastPlace := canonical.resolve_left (by rw [isZero]; decide)
    have numZero : num = 0 := by
      rw [isZero, Nat.cast_zero, zero_mul, div_eq_zero_iff] at same
      have denNonzero : (den : ℚ) ≠ 0 := by positivity
      exact_mod_cast same.resolve_right denNonzero
    rw [isLeast, isZero, sub_self] at isSum
    rw [numZero, ← isSum]
    rfl
  have numPos : 0 < num := num_pos_of_lt (by positivity) same
  have isLimit : (fractionLimit : ℚ) = (2 : ℚ) ^ (52 : Int) := by norm_num [fractionLimit]
  have below : (num : ℚ) / den < (2 : ℚ) ^ (b.place + 53) := by
    have cast : (b.units : ℚ) < 2 * fractionLimit := by exact_mod_cast fewUnits
    calc (num : ℚ) / den = b.units * (2 : ℚ) ^ b.place := same
      _ < 2 * fractionLimit * (2 : ℚ) ^ b.place := by gcongr
      _ = (2 : ℚ) ^ (b.place + 53) := by
        rw [isLimit, zpow_add₀ two_ne_zero]
        norm_num
        ring
  -- With all digits the place is where the quotient begins; with fewer it is the least one.
  have isPlace : binaryPlace num den = b.place := by
    rw [binaryPlace_eq_max]
    cases canonical with
    | inl full =>
      have atLeast : (2 : ℚ) ^ (b.place + 52) ≤ num / den := by
        have cast : (fractionLimit : ℚ) ≤ b.units := by exact_mod_cast full
        calc (2 : ℚ) ^ (b.place + 52) = fractionLimit * (2 : ℚ) ^ b.place := by
              rw [isLimit, zpow_add₀ two_ne_zero, mul_comm]
          _ ≤ b.units * (2 : ℚ) ^ b.place := by gcongr
          _ = num / den := same.symm
      rw [topPlace_eq numPos positive ⟨atLeast, below⟩]
      exact max_eq_left placeLow
    | inr isLeast =>
      obtain ⟨atLeast, -⟩ := isPlace_topPlace numPos positive
      have low := (zpow_lt_zpow_iff_right₀ one_lt_two).1 (atLeast.trans_lt below)
      rw [isLeast] at low ⊢
      exact max_eq_right (by omega)
  have units : roundHalfEven (num <<< (-b.place).toNat) (den <<< b.place.toNat) = b.units := by
    have whole : roundHalfEven b.units 1 = b.units := by
      have exactly := roundHalfEven_of_dvd (k := b.units) one_pos
      rwa [Nat.mul_one] at exactly
    rw [← whole]
    refine roundHalfEven_congr (shiftLeft_pos positive _) one_pos ?_
    rw [cast_shiftLeft_div, same, mul_div_assoc, div_self (by positivity), Nat.cast_one, mul_one,
      div_one]
  rw [bitsOfQuotient_of_pos numPos, isPlace, units, isSum]
  exact Nat.min_eq_left finite.le

end TableQuery.Decimal
