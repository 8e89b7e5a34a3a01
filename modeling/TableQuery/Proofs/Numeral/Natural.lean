import TableQuery.Proofs.Decimal.Natural
import TableQuery.Proofs.Numeral.ReadBack

/-! # Texts of naturals

The text of a natural below `2 ^ 53` is made of its decimal digits, so no two of them have the
same text.
-/

namespace TableQuery

theorem Layout.digitsOf_mul_pow {digits : Nat} (positive : 0 < digits) (k : Nat) :
    digitsOf (digits * 10 ^ k) = digitsOf digits ++ zeros k := by
  induction k with
  | zero => simp [zeros]
  | succ k inductionHypothesis =>
    have isNext : digits * 10 ^ (k + 1) = 10 * (digits * 10 ^ k) + 0 := by ring
    have positive' : 0 < digits * 10 ^ k := by positivity
    rw [digitsOf, isNext, ← Nat.toDigits_append_toDigits (by decide) positive' (by decide),
      ← digitsOf, inductionHypothesis, zeros, zeros, List.replicate_succ', ← List.append_assoc]
    rfl

namespace Numeral

variable {n : Nat}

theorem toNat_toBits_floatOfNat (positive : 0 < n) (small : n < 2 ^ 53) :
    (floatOfNat n).toBits.toNat = Decimal.naturalBits n ∧ (floatOfNat n).isFinite = true := by
  have isBits : Decimal.toBits ⟨n, 0⟩ = Decimal.naturalBits n := by
    rw [Decimal.toBits_natural, Decimal.bitsOfQuotient_natural positive small]
  rw [floatOfNat, Decimal.toFloat, isBits, ← Double.toNat_packed]
  simpa using Double.packed_floatOfBits false (Decimal.naturalBits_lt_infinityBits positive small)

theorem renderDecimal_natural {digits zeros : Nat} (positive : 0 < digits * 10 ^ zeros)
    (small : digits * 10 ^ zeros < 2 ^ 53) :
    layout.renderDecimal ⟨digits, zeros⟩ = Layout.digitsOf (digits * 10 ^ zeros) := by
  have isDigits := Layout.digitsOf_mul_pow (Nat.pos_of_mul_pos_right positive) zeros
  have few : (Layout.digitsOf (digits * 10 ^ zeros)).length ≤ 16 :=
    (Nat.length_toDigits_le_iff (by decide) (by decide)).2 (by omega)
  have some := List.length_pos_iff.2 (digitsOf_ne_nil digits)
  have isLength := congrArg List.length isDigits
  rw [List.length_append, length_zeros] at isLength
  have isPlain : layout.plainFrom ≤ (Layout.digitsOf digits).length + (zeros : Int) - 1 ∧
      (Layout.digitsOf digits).length + (zeros : Int) - 1 < layout.plainBelow := by
    constructor
    · show -6 ≤ _
      omega
    · show _ < (21 : Int)
      omega
  have isZeros : ((Layout.digitsOf digits).length + (zeros : Int)).toNat -
      (Layout.digitsOf digits).length = zeros := by omega
  rw [Layout.renderDecimal, isDigits]
  dsimp only
  rw [if_pos isPlain, Layout.plain, if_neg (by omega), if_pos (by omega), isZeros,
    if_neg (show ¬ layout.fraction = true from Bool.false_ne_true), List.append_nil]

theorem text_floatOfNat (small : n < 2 ^ 53) : text (floatOfNat n) = toString n := by
  cases Nat.eq_zero_or_pos n with
  | inl isZero =>
    subst isZero
    rfl
  | inr positive =>
    obtain ⟨isBits, finite⟩ := toNat_toBits_floatOfNat positive small
    obtain ⟨digits, zeros, isShortest, isProduct⟩ :=
      Decimal.exists_shortest_naturalBits positive small .away
    have below := Decimal.naturalBits_lt_infinityBits positive small
    have isMagnitude : Double.magnitude (floatOfNat n) = Decimal.naturalBits n := by
      rw [Double.magnitude, isBits, Nat.mod_eq_of_lt (below.trans (by decide))]
    have isText := toList_text finite
    rw [isMagnitude, isBits, isShortest, if_neg (Decimal.naturalBits_pos n).ne',
      if_neg (Nat.not_le_of_lt (below.trans (by decide))), List.nil_append] at isText
    subst isProduct
    rw [renderDecimal_natural positive small] at isText
    rw [← String.toList_inj, isText]
    exact String.toList_ofList.symm

end Numeral

end TableQuery
