import TableQuery.Proofs.Decimal.Value

/-! # Naturals as doubles

A double holds every natural below `2 ^ 53` with all its digits.  No other natural has the same
double, so the shortest decimal of that double is the natural itself, with trailing zeros moved
into the exponent.
-/

namespace TableQuery.Decimal

/-- The bits of the double of a positive natural below `2 ^ 53`. -/
def naturalBits (n : Nat) : Nat := (n.log2 + 1022) * fractionLimit + n <<< (52 - n.log2)

variable {n : Nat}

theorem log2_le_of_small (positive : 0 < n) (small : n < 2 ^ 53) : n.log2 ≤ 52 :=
  Nat.le_of_lt_succ ((Nat.log2_lt positive.ne').2 small)

theorem shiftLeft_between (positive : 0 < n) (small : n < 2 ^ 53) :
    fractionLimit ≤ n <<< (52 - n.log2) ∧ n <<< (52 - n.log2) < 2 * fractionLimit := by
  have within := log2_le_of_small positive small
  have low := Nat.log2_self_le positive.ne'
  have high : n < 2 ^ (n.log2 + 1) := Nat.lt_log2_self
  have isLimit : fractionLimit = 2 ^ n.log2 * 2 ^ (52 - n.log2) := by
    rw [← pow_add, Nat.add_sub_cancel' within]
    rfl
  rw [Nat.shiftLeft_eq]
  constructor
  · rw [isLimit]
    exact Nat.mul_le_mul_right _ low
  · have double : 2 * fractionLimit = 2 ^ (n.log2 + 1) * 2 ^ (52 - n.log2) := by
      rw [isLimit, pow_succ]
      ring
    rw [double]
    exact Nat.mul_lt_mul_of_pos_right high (by positivity)

theorem ofBits_naturalBits (positive : 0 < n) (small : n < 2 ^ 53) :
    Binary.ofBits (naturalBits n) = ⟨n <<< (52 - n.log2), (n.log2 : Int) - 52⟩ := by
  have within := log2_le_of_small positive small
  obtain ⟨low, high⟩ := shiftLeft_between positive small
  generalize isUnits : n <<< (52 - n.log2) = units at *
  have isField : naturalBits n / fractionLimit % 2048 = n.log2 + 1023 := by
    rw [naturalBits, isUnits]
    rw [fractionLimit] at *
    omega
  have isFraction : fractionLimit + naturalBits n % fractionLimit = units := by
    rw [naturalBits, isUnits]
    rw [fractionLimit] at *
    omega
  have isPlace : ((n.log2 + 1023 : Nat) : Int) - 1 + leastPlace = n.log2 - 52 := by
    rw [leastPlace]
    omega
  rw [Binary.ofBits, isField, if_neg (by omega), isFraction, isPlace]

theorem naturalBits_pos (n : Nat) : 0 < naturalBits n :=
  Nat.add_pos_left (Nat.mul_pos (Nat.succ_pos _) (by decide)) _

theorem naturalBits_lt (positive : 0 < n) (small : n < 2 ^ 53) :
    naturalBits n < 1076 * fractionLimit := by
  have within := log2_le_of_small positive small
  obtain ⟨-, high⟩ := shiftLeft_between positive small
  have field := Nat.mul_le_mul_right fractionLimit (Nat.add_le_add_right within 1022)
  rw [naturalBits]
  omega

theorem naturalBits_lt_infinityBits (positive : 0 < n) (small : n < 2 ^ 53) :
    naturalBits n < infinityBits :=
  (naturalBits_lt positive small).trans (by decide)

theorem value_naturalBits (positive : 0 < n) (small : n < 2 ^ 53) :
    (Binary.ofBits (naturalBits n)).units * (2 : ℚ) ^ (Binary.ofBits (naturalBits n)).place = n := by
  have within := log2_le_of_small positive small
  rw [ofBits_naturalBits positive small]
  simp only [Nat.shiftLeft_eq, Nat.cast_mul, Nat.cast_pow, Nat.cast_ofNat]
  rw [mul_assoc, ← zpow_natCast, ← zpow_add₀ two_ne_zero]
  have isZero : ((52 - n.log2 : Nat) : Int) + ((n.log2 : Int) - 52) = 0 := by omega
  rw [isZero, zpow_zero, mul_one]

theorem bitsOfQuotient_natural (positive : 0 < n) (small : n < 2 ^ 53) :
    bitsOfQuotient n 1 = naturalBits n := by
  apply bitsOfQuotient_of_value (naturalBits_lt_infinityBits positive small) one_pos
  rw [value_naturalBits positive small, Nat.cast_one, div_one]

theorem bitsOfQuotient_of_great (great : 2 ^ 53 ≤ n) :
    1076 * fractionLimit ≤ bitsOfQuotient n 1 := by
  have positive : 0 < n := Nat.lt_of_lt_of_le (by decide) great
  obtain ⟨-, below⟩ := isPlace_topPlace positive one_pos
  have atLeast : (2 : ℚ) ^ (53 : Int) ≤ (n : ℚ) / ((1 : Nat) : ℚ) := by
    rw [Nat.cast_one, div_one]
    exact_mod_cast great
  have high := (zpow_lt_zpow_iff_right₀ one_lt_two).1 (atLeast.trans_lt below)
  have isTop : binaryPlace n 1 = topPlace n 1 := by
    rw [binaryPlace_eq_max, leastPlace]
    omega
  have units := fractionLimit_le_roundHalfEven positive one_pos
  have places : 1075 ≤ (topPlace n 1 - leastPlace).toNat := by
    rw [leastPlace]
    omega
  have product := Nat.mul_le_mul_right fractionLimit places
  rw [bitsOfQuotient_of_pos positive, isTop, Nat.le_min, infinityBits]
  omega

theorem eq_of_bitsOfQuotient_eq {m : Nat} (positive : 0 < n) (small : n < 2 ^ 53)
    (same : bitsOfQuotient m 1 = naturalBits n) : m = n := by
  have below := naturalBits_lt positive small
  cases Nat.eq_zero_or_pos m with
  | inl isZero =>
    subst isZero
    have noBits : (0 : Nat) = naturalBits n := same
    have someBits := naturalBits_pos n
    omega
  | inr positive' =>
    by_cases small' : m < 2 ^ 53
    · rw [bitsOfQuotient_natural positive' small'] at same
      have isValue := value_naturalBits positive' small'
      rw [same, value_naturalBits positive small] at isValue
      exact_mod_cast isValue.symm
    · have above := bitsOfQuotient_of_great (Nat.le_of_not_lt small')
      omega

theorem toBits_natural (n : Nat) : toBits ⟨n, 0⟩ = bitsOfQuotient n 1 := by
  apply toBits_eq_bitsOfQuotient one_pos
  simp [value]

/-! ## The shortest decimal of a natural -/

/-- On a grid the neighbour below or the one above is found, unless the one below does not read
    back. -/
theorem neighbour?_cases (tie : Tie) (bits num den : Nat) (place : Int) :
    let below := num * Nat.pow 10 (-place).toNat / (den * Nat.pow 10 place.toNat)
    neighbour? tie bits num den place = some ⟨below, place⟩ ∨
      neighbour? tie bits num den place = some ⟨below + 1, place⟩ ∨
      toBits ⟨below, place⟩ ≠ bits ∧ neighbour? tie bits num den place = none := by
  intro below
  simp only [neighbour?]
  by_cases low : toBits ⟨below, place⟩ = bits
  · rw [if_pos low]
    split
    · split
      · exact .inl rfl
      · split
        · exact .inr (.inl rfl)
        · cases tie with
          | away => exact .inr (.inl rfl)
          | toEven =>
            simp only
            split
            · exact .inl rfl
            · exact .inr (.inl rfl)
    · exact .inl rfl
  · rw [if_neg low]
    split
    · exact .inr (.inl rfl)
    · exact .inr (.inr ⟨low, rfl⟩)

theorem exp_of_neighbour? {tie : Tie} {bits num den : Nat} {place : Int} {d : Decimal}
    (hit : neighbour? tie bits num den place = some d) : d.exp = place := by
  obtain isBelow | isAbove | none := neighbour?_cases tie bits num den place
  · rw [isBelow] at hit
    cases hit
    rfl
  · rw [isAbove] at hit
    cases hit
    rfl
  · rw [none.2] at hit
    cases hit

theorem exp_le_exp_stripZeros (fuel : Nat) (d : Decimal) : d.exp ≤ (stripZeros fuel d).exp := by
  induction fuel generalizing d with
  | zero => exact Int.le_refl _
  | succ fuel inductionHypothesis =>
    rw [stripZeros]
    split
    · have further := inductionHypothesis ⟨d.digits / 10, d.exp + 1⟩
      simp only at further
      omega
    · exact Int.le_refl _

/-- What is found first stands no later than a place where something is found. -/
theorem exists_findSome?_range {α : Type} {f : Nat → Option α} {count i : Nat}
    (within : i < count) (isSome : (f i).isSome = true) :
    ∃ j ≤ i, ∃ a, f j = some a ∧ (List.range count).findSome? f = some a := by
  have found : ((List.range count).findSome? f).isSome = true :=
    List.findSome?_isSome_iff.2 ⟨i, List.mem_range.2 within, isSome⟩
  obtain ⟨a, isFirst⟩ := Option.isSome_iff_exists.1 found
  obtain ⟨before, j, behind, isSplit, isHit, none⟩ := List.findSome?_eq_some_iff.1 isFirst
  refine ⟨j, ?_, a, isHit, isFirst⟩
  have member : i ∈ before ++ j :: behind := isSplit ▸ List.mem_range.2 within
  have increasing : (before ++ j :: behind).Pairwise (· < ·) := isSplit ▸ List.pairwise_lt_range
  cases List.mem_append.1 member with
  | inl isBefore =>
    rw [none i isBefore] at isSome
    cases isSome
  | inr notBefore =>
    cases List.mem_cons.1 notBefore with
    | inl isHere => exact isHere.ge
    | inr isBehind =>
      have later := List.rel_of_pairwise_cons (List.pairwise_append.1 increasing).2.1 isBehind
      exact later.le

section

variable (positive : 0 < n) (small : n < 2 ^ 53)

include positive small

theorem num_den_naturalBits : (Binary.ofBits (naturalBits n)).num = n <<< (52 - n.log2) ∧
    (Binary.ofBits (naturalBits n)).den = 1 <<< (52 - n.log2) := by
  have within := log2_le_of_small positive small
  have noShift : ((n.log2 : Int) - 52).toNat = 0 := by omega
  have shift : (-((n.log2 : Int) - 52)).toNat = 52 - n.log2 := by omega
  rw [ofBits_naturalBits positive small, Binary.num, Binary.den]
  simp only [noShift, shift, Nat.shiftLeft_zero, and_self]

omit positive small in
theorem belowPower_natural (s : Nat) (k : Int) : belowPower (n <<< s) (1 <<< s) k = true ↔
    n * 10 ^ (-k).toNat < 10 ^ k.toNat := by
  have powPos : 0 < 2 ^ s := by positivity
  rw [belowPower, decide_eq_true_eq, Nat.pow_eq, Nat.pow_eq, Nat.shiftLeft_eq, Nat.shiftLeft_eq,
    one_mul, mul_right_comm, mul_comm (2 ^ s)]
  exact Nat.mul_lt_mul_right powPos

theorem powerAbove_between : 1 ≤ powerAbove (n <<< (52 - n.log2)) (1 <<< (52 - n.log2)) ∧
    powerAbove (n <<< (52 - n.log2)) (1 <<< (52 - n.log2)) ≤ 16 := by
  have within := log2_le_of_small positive small
  obtain ⟨low, high⟩ := shiftLeft_between positive small
  have isNum : (n <<< (52 - n.log2)).log2 = 52 := by
    rw [Nat.log2_eq_iff (by rw [fractionLimit] at low; omega)]
    exact ⟨low, high⟩
  have isDen : (1 <<< (52 - n.log2)).log2 = 52 - n.log2 := by
    rw [Nat.shiftLeft_eq, one_mul, Nat.log2_two_pow]
  have atLeast : ∀ k, belowPower (n <<< (52 - n.log2)) (1 <<< (52 - n.log2)) k = true → 1 ≤ k := by
    intro k below
    rw [belowPower_natural] at below
    by_contra notPositive
    have noPower : k.toNat = 0 := by omega
    have powPos : 0 < n * 10 ^ (-k).toNat := by positivity
    rw [noPower, pow_zero] at below
    omega
  have atMost : ∀ k, belowPower (n <<< (52 - n.log2)) (1 <<< (52 - n.log2)) k = false → k ≤ 15 := by
    intro k notBelow
    rw [← Bool.not_eq_true, belowPower_natural] at notBelow
    by_contra great
    apply notBelow
    have noPower : (-k).toNat = 0 := by omega
    have power : 10 ^ 16 ≤ 10 ^ k.toNat := Nat.pow_le_pow_right (by decide) (by omega)
    rw [noPower, pow_zero, mul_one]
    omega
  rw [powerAbove, isNum, isDen]
  generalize isGuess : (((52 : Nat) : Int) - ((52 - n.log2 : Nat) : Int) - 1) * 30103 / 100000 = guess
  split
  · next below => exact ⟨atLeast _ below, by omega⟩
  · next notBelow =>
    have first := atMost _ (Bool.eq_false_of_not_eq_true notBelow)
    split
    · next below => exact ⟨atLeast _ below, by omega⟩
    · next notBelow =>
      have second := atMost _ (Bool.eq_false_of_not_eq_true notBelow)
      split
      · next below => exact ⟨atLeast _ below, by omega⟩
      · next notBelow =>
        have third := atMost _ (Bool.eq_false_of_not_eq_true notBelow)
        exact ⟨by omega, by omega⟩

theorem isSome_neighbour?_units (tie : Tie) : (neighbour? tie (naturalBits n)
    (n <<< (52 - n.log2)) (1 <<< (52 - n.log2)) 0).isSome = true := by
  have powPos : 0 < 2 ^ (52 - n.log2) := by positivity
  have isBelow : n <<< (52 - n.log2) * Nat.pow 10 (-(0 : Int)).toNat /
      (1 <<< (52 - n.log2) * Nat.pow 10 (0 : Int).toNat) = n := by
    simp only [Nat.pow_eq, Nat.shiftLeft_eq, one_mul, Int.neg_zero, Int.toNat_zero, pow_zero,
      mul_one]
    exact Nat.mul_div_cancel n powPos
  have readsBack : toBits ⟨n, 0⟩ = naturalBits n := by
    rw [toBits_natural, bitsOfQuotient_natural positive small]
  have found := neighbour?_cases tie (naturalBits n) (n <<< (52 - n.log2)) (1 <<< (52 - n.log2)) 0
  rw [isBelow] at found
  obtain isLow | isHigh | none := found
  · rw [isLow]
    rfl
  · rw [isHigh]
    rfl
  · exact absurd readsBack none.1

theorem exp_shortest_naturalBits (tie : Tie) : 0 ≤ (shortest tie (naturalBits n)).exp := by
  obtain ⟨isNum, isDen⟩ := num_den_naturalBits positive small
  obtain ⟨topLow, topHigh⟩ := powerAbove_between positive small
  have onUnits := isSome_neighbour?_units positive small tie
  rw [shortest, isNum, isDen]
  generalize powerAbove (n <<< (52 - n.log2)) (1 <<< (52 - n.log2)) = top at topLow topHigh
  have within : (top - 1).toNat < 17 := by omega
  have isUnits : top - (((top - 1).toNat + 1 : Nat) : Int) = 0 := by omega
  rw [← isUnits] at onUnits
  -- The grids get finer, and that of the units is the last one that is looked at.
  obtain ⟨j, notLater, d, isHit, isFirst⟩ := exists_findSome?_range
    (f := fun i => neighbour? tie (naturalBits n) (n <<< (52 - n.log2)) (1 <<< (52 - n.log2))
      (top - (i + 1 : Nat))) within onUnits
  rw [isFirst]
  have isExp := exp_of_neighbour? isHit
  refine Int.le_trans ?_ (exp_le_exp_stripZeros _ _)
  rw [Option.getD_some, isExp]
  omega

/-- The shortest decimal of a natural is that natural with some zeros in the exponent. -/
theorem exists_shortest_naturalBits (tie : Tie) :
    ∃ digits zeros : Nat, shortest tie (naturalBits n) = ⟨digits, zeros⟩ ∧
      digits * 10 ^ zeros = n := by
  have readsBack := toBits_shortest tie (naturalBits_lt_infinityBits positive small)
  have notNegative := exp_shortest_naturalBits positive small tie
  generalize shortest tie (naturalBits n) = d at readsBack notNegative
  obtain ⟨digits, exp⟩ := d
  obtain ⟨zeros, rfl⟩ := Int.eq_ofNat_of_zero_le notNegative
  refine ⟨digits, zeros, rfl, ?_⟩
  apply eq_of_bitsOfQuotient_eq positive small
  rw [← readsBack, ← toBits_natural]
  apply toBits_congr
  simp [value]

end

end TableQuery.Decimal
