import Mathlib
import TableQuery.Proofs.Decimal.Whole
import TableQuery.Proofs.Numeral.Natural

/-! # Literals in base 16, 8 and 2

A literal in a base is a zero, the letter of the base and at least one digit.  Its digits are
read one by one with rounding at each of them, and as long as the whole literal stays below
`2 ^ 53` none of these steps rounds anything away.
-/

namespace TableQuery

namespace Numeral

/-! ## Digits -/

def smallDigits : List Char := "0123456789abcdef".toList

def capitalDigits : List Char := "0123456789ABCDEF".toList

/-- Is this the digit of that value in a base, in either case? -/
def IsDigitIn (base value : Nat) (c : Char) : Prop :=
  value < base ∧ (smallDigits[value]? = some c ∨ capitalDigits[value]? = some c)

theorem getElem?_digitValue {c : Char} (small : digitValue c < 16) :
    smallDigits[digitValue c]? = some c ∨ capitalDigits[digitValue c]? = some c := by
  have ascii : c.toNat < 128 := by
    simp only [digitValue, Char.isDigit, Char.le_def, UInt32.le_iff_toNat_le] at small
    grind
  -- No character beyond ASCII has a value, and the others are few enough to try each.
  have each : ∀ n < 128, digitValue (Char.ofNat n) < 16 →
      smallDigits[digitValue (Char.ofNat n)]? = some (Char.ofNat n) ∨
        capitalDigits[digitValue (Char.ofNat n)]? = some (Char.ofNat n) := by
    decide +kernel
  have here := each c.toNat ascii
  rw [Char.ofNat_toNat] at here
  exact here small

theorem digitValue_of_getElem? {value : Nat} {c : Char}
    (isDigit : smallDigits[value]? = some c ∨ capitalDigits[value]? = some c) :
    digitValue c = value := by
  have each : ∀ n < 16, smallDigits[n]?.map digitValue = some n ∧
      capitalDigits[n]?.map digitValue = some n := by
    decide +kernel
  cases isDigit with
  | inl small =>
    have here := (each value (List.getElem?_eq_some_iff.1 small).1).1
    rw [small] at here
    exact Option.some.inj here
  | inr capital =>
    have here := (each value (List.getElem?_eq_some_iff.1 capital).1).2
    rw [capital] at here
    exact Option.some.inj here

theorem isDigitIn_iff {base value : Nat} {c : Char} (few : base ≤ 16) :
    IsDigitIn base value c ↔ digitValue c < base ∧ value = digitValue c := by
  constructor
  · intro ⟨below, isDigit⟩
    obtain rfl := digitValue_of_getElem? isDigit
    exact ⟨below, rfl⟩
  · rintro ⟨below, rfl⟩
    exact ⟨below, getElem?_digitValue (by omega)⟩

theorem forall₂_isDigitIn_iff {base : Nat} {values : List Nat} {ds : List Char} (few : base ≤ 16) :
    List.Forall₂ (IsDigitIn base) values ds ↔
      (∀ c ∈ ds, digitValue c < base) ∧ values = ds.map digitValue := by
  induction ds generalizing values with
  | nil => simp
  | cons c ds inductionHypothesis =>
    simp only [List.forall₂_cons_right_iff, isDigitIn_iff few, inductionHypothesis,
      List.forall_mem_cons, List.map_cons]
    grind

/-! ## Literals -/

/-- The letters behind the zero, with the bases that they stand for. -/
def baseLetters : List (Char × Nat) :=
  [('x', 16), ('X', 16), ('o', 8), ('O', 8), ('b', 2), ('B', 2)]

/-- Is the text a literal in a base, with digits of these values? -/
inductive IsRadixLiteral : Nat → List Nat → List Char → Prop where
  | intro {letter : Char} {base : Nat} {values : List Nat} {ds : List Char}
      (isBase : (letter, base) ∈ baseLetters) (nonempty : ds ≠ [])
      (digits : List.Forall₂ (IsDigitIn base) values ds) :
      IsRadixLiteral base values ('0' :: letter :: ds)

theorem IsRadixLiteral.ne_nil {base : Nat} {values : List Nat} {s : List Char}
    (literal : IsRadixLiteral base values s) : s ≠ [] := by
  cases literal
  exact List.cons_ne_nil _ _

theorem radixOf?_eq_some_iff {letter : Char} {base : Nat} :
    radixOf? letter = some base ↔ (letter, base) ∈ baseLetters := by
  simp only [radixOf?, baseLetters, List.mem_cons, Prod.mk.injEq, List.not_mem_nil, or_false]
  grind

theorem base_le_of_mem {letter : Char} {base : Nat} (isBase : (letter, base) ∈ baseLetters) :
    0 < base ∧ base ≤ 16 := by
  have each : ∀ entry ∈ baseLetters, 0 < entry.2 ∧ entry.2 ≤ 16 := by decide
  exact each _ isBase

theorem radix?_of_isRadixLiteral {base : Nat} {values : List Nat} {s : List Char}
    (literal : IsRadixLiteral base values s) : radix? s =
      some (floatOfNat (values.foldl (fun n value => keepPrecision (base * n + value)) 0)) := by
  -- The reader looks at the characters, the literal tells their values.
  obtain @⟨letter, base, values, ds, isBase, nonempty, digits⟩ := literal
  obtain ⟨all, rfl⟩ := (forall₂_isDigitIn_iff (base_le_of_mem isBase).2).1 digits
  have allBelow : (ds.all fun c => digitValue c < base) = true := by simpa using all
  simp [radix?, radixOf?_eq_some_iff.2 isBase, nonempty, allBelow, radixValue, List.foldl_map]

theorem isSome_radix?_iff {s : List Char} :
    (radix? s).isSome = true ↔ ∃ base values, IsRadixLiteral base values s := by
  constructor
  · intro isSome
    unfold radix? at isSome
    split at isSome
    · next letter ds =>
      split at isSome
      · cases isSome
      · next base isBase =>
        have isBase' := radixOf?_eq_some_iff.1 isBase
        split at isSome
        · cases isSome
        · next digits =>
          simp only [Bool.or_eq_true, List.isEmpty_iff, Bool.not_eq_true', not_or, Bool.not_eq_false,
            List.all_eq_true, decide_eq_true_eq] at digits
          exact ⟨base, ds.map digitValue, .intro isBase' digits.1
            ((forall₂_isDigitIn_iff (base_le_of_mem isBase').2).2 ⟨digits.2, rfl⟩)⟩
    · cases isSome
  · intro ⟨base, values, literal⟩
    rw [radix?_of_isRadixLiteral literal]
    rfl

/-! ## Values -/

theorem keepPrecision_eq_self {n : Nat} (small : n < 2 ^ 53) : keepPrecision n = n := by
  have noExcess : n.log2 + 1 - Decimal.precision = 0 := by
    rw [Decimal.precision]
    cases Nat.eq_zero_or_pos n with
    | inl isZero =>
      subst isZero
      rfl
    | inr positive =>
      have within := Decimal.log2_le_of_small positive small
      omega
  have whole : Decimal.roundHalfEven (n * 1) 1 = n := Decimal.roundHalfEven_of_dvd one_pos
  rw [Nat.mul_one] at whole
  rw [keepPrecision, noExcess, Nat.shiftLeft_zero, Nat.shiftLeft_zero, whole]

section

variable {base : Nat}

theorem le_foldl (positive : 0 < base) (n : Nat) (values : List Nat) :
    n ≤ values.foldl (fun n value => base * n + value) n := by
  induction values generalizing n with
  | nil => exact Nat.le_refl n
  | cons value values inductionHypothesis =>
    calc n ≤ base * n := Nat.le_mul_of_pos_left n positive
      _ ≤ base * n + value := Nat.le_add_right _ _
      _ ≤ _ := inductionHypothesis (base * n + value)

/-- What is read of a literal grows with each digit, so where the whole is small enough, no part
    of it is rounded. -/
theorem foldl_keepPrecision (positive : 0 < base) {n : Nat} {values : List Nat}
    (small : values.foldl (fun n value => base * n + value) n < 2 ^ 53) :
    values.foldl (fun n value => keepPrecision (base * n + value)) n =
      values.foldl (fun n value => base * n + value) n := by
  induction values generalizing n with
  | nil => rfl
  | cons value values inductionHypothesis =>
    have next := le_foldl positive (base * n + value) values
    rw [List.foldl_cons] at small ⊢
    rw [keepPrecision_eq_self (next.trans_lt small), inductionHypothesis small, List.foldl_cons]

theorem foldl_eq_ofDigits (values : List Nat) :
    values.foldl (fun n value => base * n + value) 0 = Nat.ofDigits base values.reverse := by
  rw [Nat.ofDigits_eq_foldr, List.foldr_reverse]
  simp only [Nat.cast_id, Nat.add_comm]

theorem radix?_of_small {values : List Nat} {s : List Char}
    (literal : IsRadixLiteral base values s) (small : Nat.ofDigits base values.reverse < 2 ^ 53) :
    radix? s = some (floatOfNat (Nat.ofDigits base values.reverse)) := by
  have positive : 0 < base := by
    cases literal with
    | intro isBase => exact (base_le_of_mem isBase).1
  rw [← foldl_eq_ofDigits] at small ⊢
  rw [radix?_of_isRadixLiteral literal, foldl_keepPrecision positive small]

end

end Numeral

namespace Double

theorem value_floatOfNat {n : Nat} (small : n < 2 ^ 53) :
    (floatOfNat n).isFinite = true ∧ value (floatOfNat n) = n := by
  cases Nat.eq_zero_or_pos n with
  | inl isZero =>
    subst isZero
    refine ⟨rfl, ?_⟩
    have noBits : (Binary.ofBits (magnitude (floatOfNat 0))).units = 0 := rfl
    have noSign : ¬ Decimal.signBits ≤ (floatOfNat 0).toBits.toNat := by decide
    rw [value, if_neg noSign, absValue, noBits]
    simp
  | inr positive =>
    obtain ⟨isBits, finite⟩ := Numeral.toNat_toBits_floatOfNat positive small
    have below := Decimal.naturalBits_lt_infinityBits positive small
    have noSign : ¬ Decimal.signBits ≤ Decimal.naturalBits n :=
      Nat.not_le_of_lt (below.trans (by decide))
    refine ⟨finite, ?_⟩
    rw [value, isBits, if_neg noSign, absValue, magnitude, isBits,
      Nat.mod_eq_of_lt (Nat.lt_of_not_le noSign), Decimal.value_naturalBits positive small]

end Double

end TableQuery
