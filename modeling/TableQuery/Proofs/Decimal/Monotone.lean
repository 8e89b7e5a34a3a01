import TableQuery.Decimal.Layout
import TableQuery.Proofs.Decimal.Value

/-! # Rounding keeps the order

Of two decimals the lesser one never has the greater bits.  So a double is below the double of a
bound just if its shortest decimal is below the bound, as long as the bound is the shortest
decimal of its own double.
-/

namespace TableQuery.Decimal

/-! ## Quotients -/

section

variable {num den num' den' : Nat}

theorem roundHalfEven_le_of_le {den n n' : Nat} (le : n ≤ n') :
    roundHalfEven n den ≤ roundHalfEven n' den := by
  have quoLe : n / den ≤ n' / den := Nat.div_le_div_right le
  rcases Nat.lt_or_eq_of_le quoLe with quoLess | sameQuo
  · -- A quotient is rounded up by one at most.
    have above : roundHalfEven n den ≤ n / den + 1 := by
      rw [roundHalfEven]
      split_ifs <;> omega
    exact (above.trans quoLess).trans (div_le_roundHalfEven _ _)
  · have isSum := Nat.div_add_mod n den
    have isSum' := Nat.div_add_mod n' den
    rw [sameQuo] at isSum
    have remLe : n % den ≤ n' % den := by omega
    simp only [roundHalfEven, sameQuo]
    split_ifs <;> omega

/-- A quotient that is not greater is not rounded to a greater natural. -/
theorem roundHalfEven_mono (positive : 0 < den) (positive' : 0 < den')
    (le : (num : ℚ) / den ≤ num' / den') : roundHalfEven num den ≤ roundHalfEven num' den' := by
  have denPos : (0 : ℚ) < den := by exact_mod_cast positive
  have denPos' : (0 : ℚ) < den' := by exact_mod_cast positive'
  have cross : den' * num ≤ den * num' := by
    rw [div_le_div_iff₀ denPos denPos'] at le
    have le' : num * den' ≤ num' * den := by exact_mod_cast le
    rwa [Nat.mul_comm den', Nat.mul_comm den]
  calc roundHalfEven num den
      = roundHalfEven (den' * num) (den' * den) := (roundHalfEven_mul_left positive' ..).symm
    _ ≤ roundHalfEven (den * num') (den' * den) := roundHalfEven_le_of_le cross
    _ = roundHalfEven (den * num') (den * den') := by rw [Nat.mul_comm den' den]
    _ = roundHalfEven num' den' := roundHalfEven_mul_left positive ..

theorem topPlace_mono (numPos : 0 < num) (numPos' : 0 < num') (positive : 0 < den)
    (positive' : 0 < den') (le : (num : ℚ) / den ≤ num' / den') :
    topPlace num den ≤ topPlace num' den' := by
  have atLeast := (isPlace_topPlace numPos positive).1
  have below := (isPlace_topPlace numPos' positive').2
  have less := (zpow_lt_zpow_iff_right₀ one_lt_two).1 ((atLeast.trans le).trans_lt below)
  omega

theorem roundHalfEven_le (numPos : 0 < num) (positive : 0 < den) :
    roundHalfEven (num <<< (-binaryPlace num den).toNat) (den <<< (binaryPlace num den).toNat) ≤
      2 * fractionLimit := by
  have whole : roundHalfEven (2 * fractionLimit) 1 = 2 * fractionLimit := by
    have exactly := roundHalfEven_of_dvd (k := 2 * fractionLimit) one_pos
    rwa [Nat.mul_one] at exactly
  have isLimit : ((2 * fractionLimit : Nat) : ℚ) = (2 : ℚ) ^ (53 : Int) := by
    norm_num [fractionLimit]
  have atTop : topPlace num den ≤ binaryPlace num den := by
    rw [binaryPlace_eq_max]
    exact le_max_left _ _
  rw [← whole]
  refine roundHalfEven_mono (shiftLeft_pos positive _) one_pos ?_
  rw [cast_shiftLeft_div, Nat.cast_one, div_one, isLimit, div_le_iff₀ (by positivity),
    ← zpow_add₀ two_ne_zero]
  calc (num : ℚ) / den
    _ ≤ (2 : ℚ) ^ (topPlace num den + 53) := (isPlace_topPlace numPos positive).2.le
    _ ≤ (2 : ℚ) ^ (53 + binaryPlace num den) := zpow_le_zpow_right₀ one_le_two (by omega)

theorem bitsOfQuotient_mono (positive : 0 < den) (positive' : 0 < den')
    (le : (num : ℚ) / den ≤ num' / den') : bitsOfQuotient num den ≤ bitsOfQuotient num' den' := by
  rcases Nat.eq_zero_or_pos num with rfl | numPos
  · exact Nat.zero_le _
  have numPos' : 0 < num' :=
    num_pos_of_lt (lt_of_lt_of_le (by positivity : (0 : ℚ) < num / den) le) rfl
  rw [bitsOfQuotient_of_pos numPos, bitsOfQuotient_of_pos numPos']
  refine min_le_min_right _ ?_
  have topLe := topPlace_mono numPos numPos' positive positive' le
  have placeLe : binaryPlace num den ≤ binaryPlace num' den' := by
    rw [binaryPlace_eq_max, binaryPlace_eq_max]
    exact max_le_max_right _ topLe
  have leastLe : leastPlace ≤ binaryPlace num den := by
    rw [binaryPlace_eq_max]
    exact le_max_right _ _
  rcases Int.lt_or_eq_of_le placeLe with placeLess | samePlace
  · -- The greater quotient begins at its place, and has all of its 53 digits there.
    have isTop : binaryPlace num' den' = topPlace num' den' := by
      have above := leastLe.trans_lt placeLess
      rw [binaryPlace_eq_max] at above ⊢
      omega
    have units := roundHalfEven_le numPos positive
    have units' := fractionLimit_le_roundHalfEven numPos' positive'
    rw [← isTop] at units'
    have places : (binaryPlace num den - leastPlace).toNat + 1 ≤
        (binaryPlace num' den' - leastPlace).toNat := by omega
    have product := Nat.mul_le_mul_right fractionLimit places
    rw [Nat.add_mul, Nat.one_mul] at product
    omega
  · rw [samePlace]
    refine Nat.add_le_add_left (roundHalfEven_mono (shiftLeft_pos positive _)
      (shiftLeft_pos positive' _) ?_) _
    rw [cast_shiftLeft_div, cast_shiftLeft_div]
    exact div_le_div_of_nonneg_right le (by positivity)

end

/-! ## Decimals -/

variable {d d' : Decimal}

theorem toBits_mono (le : d.value ≤ d'.value) : d.toBits ≤ d'.toBits := by
  obtain ⟨num, den, positive, isQuotient⟩ := exists_quotient d
  obtain ⟨num', den', positive', isQuotient'⟩ := exists_quotient d'
  rw [toBits_eq_bitsOfQuotient positive isQuotient, toBits_eq_bitsOfQuotient positive' isQuotient']
  exact bitsOfQuotient_mono positive positive' (by rwa [← isQuotient, ← isQuotient'])

/-- A bound that is the shortest decimal of its own double divides the doubles as it divides their
    shortest decimals. -/
theorem toBits_le_iff_le_shortest {tie : Tie} {bound : Decimal}
    (isShortest : shortest tie bound.toBits = bound) {bits : Nat} (finite : bits < infinityBits) :
    bound.toBits ≤ bits ↔ bound.value ≤ (shortest tie bits).value := by
  have isBits := toBits_shortest tie finite
  constructor
  · intro atLeast
    by_contra below
    have atMost := toBits_mono (not_le.1 below).le
    rw [isBits] at atMost
    rw [← Nat.le_antisymm atLeast atMost, isShortest] at below
    exact below le_rfl
  · intro atLeast
    rw [← isBits]
    exact toBits_mono atLeast

theorem digits_shortest_pos {tie : Tie} {bits : Nat} (finite : bits < infinityBits)
    (nonzero : bits ≠ 0) : 0 < (shortest tie bits).digits := by
  rw [Nat.pos_iff_ne_zero]
  intro noDigits
  have isBits := toBits_shortest tie finite
  rw [toBits, if_pos noDigits] at isBits
  exact nonzero isBits.symm

/-- The number of digits tells the powers of ten that a decimal is not below. -/
theorem ten_zpow_le_value_iff (positive : 0 < d.digits) (k : Int) :
    (10 : ℚ) ^ k ≤ d.value ↔ k ≤ (Layout.digitsOf d.digits).length + d.exp - 1 := by
  have tens : (0 : ℚ) < (10 : ℚ) ^ d.exp := by positivity
  have isScaled : (10 : ℚ) ^ k ≤ d.value ↔ (10 : ℚ) ^ (k - d.exp) ≤ d.digits := by
    rw [value, zpow_sub₀ (by norm_num), div_le_iff₀ tens]
  have someDigit : 0 < (Layout.digitsOf d.digits).length :=
    List.length_pos_iff.2 Nat.toDigits_ne_nil
  rw [isScaled]
  cases Int.le_total 0 (k - d.exp) with
  | inl nonneg =>
    obtain ⟨j, isPower⟩ := Int.eq_ofNat_of_zero_le nonneg
    have isLength : 10 ^ j ≤ d.digits ↔ j < (Layout.digitsOf d.digits).length := by
      cases j with
      | zero => exact iff_of_true positive someDigit
      | succ j =>
        rw [← not_iff_not, not_le, not_lt]
        exact (Nat.length_toDigits_le_iff (by decide) (Nat.succ_pos j)).symm
    rw [isPower, zpow_natCast, ← Nat.cast_ofNat, ← Nat.cast_pow, Nat.cast_le, isLength]
    omega
  | inr nonpos =>
    refine iff_of_true ?_ (by omega)
    calc (10 : ℚ) ^ (k - d.exp) ≤ 1 := zpow_le_one_of_nonpos₀ (by norm_num) nonpos
      _ ≤ d.digits := by exact_mod_cast positive

end TableQuery.Decimal
