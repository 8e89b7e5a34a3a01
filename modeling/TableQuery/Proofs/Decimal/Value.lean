import Mathlib.Tactic.FieldSimp
import TableQuery.Proofs.Decimal.Nearest

/-! # The value of a decimal

Decimals of equal value have equal bits, and the shortest decimal of a double has the bits
of that double: the decimals that the search tests are checked as they are found, and the
exact decimal that is left over has the value of the double.
-/

namespace TableQuery.Decimal

variable {d d' : Decimal}

/-- The value of a decimal. -/
def value (d : Decimal) : ℚ := d.digits * (10 : ℚ) ^ d.exp

theorem value_eq_of_nonneg {k : Nat} (isExp : d.exp = k) :
    d.value = ((d.digits * Nat.pow 10 k : Nat) : ℚ) / ((1 : Nat) : ℚ) := by
  rw [value, isExp, zpow_natCast, Nat.pow_eq]
  push_cast
  rw [div_one]

theorem value_eq_of_neg {k : Nat} (isExp : d.exp = -(k : Int)) :
    d.value = (d.digits : ℚ) / ((Nat.pow 10 k : Nat) : ℚ) := by
  rw [value, isExp, zpow_neg, zpow_natCast, Nat.pow_eq, div_eq_mul_inv]
  push_cast
  rfl

theorem exists_quotient (d : Decimal) :
    ∃ num den : Nat, 0 < den ∧ d.value = (num : ℚ) / den := by
  cases Int.le_total 0 d.exp with
  | inl nonneg =>
    obtain ⟨k, isExp⟩ := Int.eq_ofNat_of_zero_le nonneg
    exact ⟨_, 1, one_pos, value_eq_of_nonneg isExp⟩
  | inr nonpos =>
    obtain ⟨k, isNeg⟩ := Int.eq_ofNat_of_zero_le (a := -d.exp) (by omega)
    have positive : 0 < Nat.pow 10 k := by
      rw [Nat.pow_eq]
      positivity
    exact ⟨d.digits, Nat.pow 10 k, positive, value_eq_of_neg (by omega)⟩

theorem two_pow_le_ten_pow (k : Nat) : (2 : ℚ) ^ (3 * k) ≤ (10 : ℚ) ^ k := by
  rw [pow_mul]
  exact pow_le_pow_left₀ (by norm_num) (by norm_num) k

/-! ## The limits that spare large powers of ten -/

theorem great_of_exp (positive : 0 < d.digits) (great : 400 < d.exp) :
    (2 : ℚ) ^ (1024 : Int) ≤ d.value := by
  obtain ⟨k, isExp⟩ := Int.eq_ofNat_of_zero_le (a := d.exp) (by omega)
  have atLeastOne : (1 : ℚ) ≤ d.digits := by exact_mod_cast positive
  rw [value, isExp]
  calc (2 : ℚ) ^ (1024 : Int) = (2 : ℚ) ^ (1024 : Nat) := rfl
    _ ≤ (2 : ℚ) ^ (3 * k) := pow_le_pow_right₀ (by norm_num) (by omega)
    _ ≤ (10 : ℚ) ^ k := two_pow_le_ten_pow k
    _ = 1 * (10 : ℚ) ^ (k : Int) := by rw [one_mul, zpow_natCast]
    _ ≤ d.digits * (10 : ℚ) ^ (k : Int) := by gcongr

theorem small_of_exp {k : Nat} (isExp : d.exp = -(k : Int))
    (small : d.digits.log2 + 1101 ≤ 3 * k) : d.value < (2 : ℚ) ^ (-1075 : Int) := by
  rw [value_eq_of_neg isExp, Nat.pow_eq, div_lt_iff₀ (by positivity)]
  calc (d.digits : ℚ) < (2 : ℚ) ^ ((d.digits.log2 : Int) + 1) := lt_two_zpow_log2 _
    _ ≤ (2 : ℚ) ^ ((-1075 : Int) + (3 * k : Nat)) := zpow_le_zpow_right₀ (by norm_num) (by omega)
    _ = (2 : ℚ) ^ (-1075 : Int) * (2 : ℚ) ^ (3 * k) := by
      rw [zpow_add₀ two_ne_zero, zpow_natCast]
    _ ≤ (2 : ℚ) ^ (-1075 : Int) * ((10 ^ k : Nat) : ℚ) := by
      rw [Nat.cast_pow, Nat.cast_ofNat]
      exact mul_le_mul_of_nonneg_left (two_pow_le_ten_pow k) (by positivity)

theorem toBits_eq_bitsOfQuotient {num den : Nat} (positive : 0 < den)
    (same : d.value = (num : ℚ) / den) : d.toBits = bitsOfQuotient num den := by
  rw [toBits]
  split
  · next isZero =>
    have noValue : (num : ℚ) / den = ((0 : Nat) : ℚ) / ((1 : Nat) : ℚ) := by
      rw [← same, value, isZero]
      simp
    rw [bitsOfQuotient_congr positive one_pos noValue]
    rfl
  · next nonzero =>
    split
    · next nonneg =>
      obtain ⟨k, isExp⟩ := Int.eq_ofNat_of_zero_le nonneg
      split
      · -- The power of ten is not computed here; the quotient is beyond the doubles anyway.
        next great =>
        have isGreat := great_of_exp (Nat.pos_of_ne_zero nonzero) great
        exact (bitsOfQuotient_eq_infinityBits positive (same ▸ isGreat)).symm
      · refine bitsOfQuotient_congr one_pos positive ?_
        rw [← same, isExp, Int.toNat_natCast, value_eq_of_nonneg isExp]
    · next negative =>
      obtain ⟨k, isNeg⟩ := Int.eq_ofNat_of_zero_le (a := -d.exp) (by omega)
      have isExp : d.exp = -(k : Int) := by omega
      rw [isNeg, Int.toNat_natCast]
      split
      · next small =>
        exact (bitsOfQuotient_eq_zero positive (same ▸ small_of_exp isExp small)).symm
      · refine bitsOfQuotient_congr ?_ positive ?_
        · rw [Nat.pow_eq]
          positivity
        · rw [← same, value_eq_of_neg isExp]

theorem toBits_congr (same : d.value = d'.value) : d.toBits = d'.toBits := by
  obtain ⟨num, den, positive, isQuotient⟩ := exists_quotient d'
  rw [toBits_eq_bitsOfQuotient positive (same.trans isQuotient),
    toBits_eq_bitsOfQuotient positive isQuotient]

/-! ## The shortest decimal -/

theorem value_exact (b : Binary) : b.exact.value = b.units * (2 : ℚ) ^ b.place := by
  rw [Binary.exact]
  split
  · next nonneg =>
    obtain ⟨k, isPlace⟩ := Int.eq_ofNat_of_zero_le nonneg
    rw [value, isPlace, Int.toNat_natCast, Nat.shiftLeft_eq, zpow_zero, mul_one, zpow_natCast]
    push_cast
    rfl
  · next negative =>
    obtain ⟨k, isNeg⟩ := Int.eq_ofNat_of_zero_le (a := -b.place) (by omega)
    have isPlace : b.place = -(k : Int) := by omega
    have tens : (10 : ℚ) ^ k = 2 ^ k * 5 ^ k := by
      rw [← mul_pow]
      norm_num
    rw [value, isPlace, neg_neg, Int.toNat_natCast, Nat.pow_eq, zpow_neg, zpow_neg, zpow_natCast,
      zpow_natCast, tens]
    push_cast
    field_simp

theorem toBits_exact {bits : Nat} (finite : bits < infinityBits) :
    (Binary.ofBits bits).exact.toBits = bits := by
  have isValue := value_exact (Binary.ofBits bits)
  obtain ⟨num, den, positive, isQuotient⟩ := exists_quotient (Binary.ofBits bits).exact
  rw [toBits_eq_bitsOfQuotient positive isQuotient]
  exact bitsOfQuotient_of_value finite positive (isQuotient.symm.trans isValue)

theorem value_stripZeros (fuel : Nat) (d : Decimal) : (stripZeros fuel d).value = d.value := by
  induction fuel generalizing d with
  | zero => rfl
  | succ fuel inductionHypothesis =>
    rw [stripZeros]
    split
    · next zeros =>
      have isDigits : d.digits = 10 * (d.digits / 10) := by omega
      have cast : (d.digits : ℚ) = 10 * ((d.digits / 10 : Nat) : ℚ) := by exact_mod_cast isDigits
      rw [inductionHypothesis, value, value, cast, zpow_add₀ (by norm_num), zpow_one]
      ring
    · rfl

theorem toBits_shortest (tie : Tie) {bits : Nat} (finite : bits < infinityBits) :
    (shortest tie bits).toBits = bits := by
  rw [shortest, toBits_congr (value_stripZeros _ _)]
  cases found : (List.range 17).findSome? fun n =>
      neighbour? tie bits (Binary.ofBits bits).num (Binary.ofBits bits).den
        (powerAbove (Binary.ofBits bits).num (Binary.ofBits bits).den - (n + 1 : Nat)) with
  | none =>
    exact toBits_exact finite
  | some hit =>
    obtain ⟨n, -, isHit⟩ := List.exists_of_findSome?_eq_some found
    exact toBits_neighbour? isHit

end TableQuery.Decimal
