import TableQuery.Proofs.Text.Plain
import TableQuery.Text.Digit

/-! # Letters and digits in ASCII

Small letters and digits are not blank, and they are their own lower case.
-/

namespace TableQuery.Text

/-- Whether something holds of all characters of a list is decided along the list. -/
instance decidableForallMem (p : Char → Prop) [DecidablePred p] (s : List Char) :
    Decidable (∀ c, c ∈ s → p c) :=
  List.decidableBAll p s

theorem toNat_of_isLower {c : Char} (letter : c.isLower = true) : 97 ≤ c.toNat ∧ c.toNat ≤ 122 := by
  simp only [Char.isLower, ge_iff_le, Bool.and_eq_true, decide_eq_true_eq, UInt32.le_iff_toNat_le]
    at letter
  exact letter

theorem toNat_of_isDigit {c : Char} (digit : c.isDigit = true) : 48 ≤ c.toNat ∧ c.toNat ≤ 57 := by
  simp only [Char.isDigit, ge_iff_le, Bool.and_eq_true, decide_eq_true_eq, UInt32.le_iff_toNat_le]
    at digit
  exact digit

theorem isBlank_of_isLower {c : Char} (letter : c.isLower = true) : isBlank c = false := by
  have bounds := toNat_of_isLower letter
  simp only [isBlank, Bool.or_eq_false_iff, beq_eq_false_iff_ne, ne_eq, Bool.and_eq_false_iff,
    decide_eq_false_iff_not]
  omega

theorem isDecimalDigit_of_isLower {c : Char} (letter : c.isLower = true) :
    isDecimalDigit c = false := by
  have bounds := toNat_of_isLower letter
  have ascii : c.toNat < 0x80 := by omega
  rw [isDecimalDigit, if_pos ascii]
  rw [Bool.eq_false_iff]
  intro digit
  have := toNat_of_isDigit digit
  omega

theorem not_isLower_of_isDigit {c : Char} (digit : c.isDigit = true) : c.isLower = false := by
  have bounds := toNat_of_isDigit digit
  rw [Bool.eq_false_iff]
  intro letter
  have := toNat_of_isLower letter
  omega

theorem isBlank_of_isDigit {c : Char} (digit : c.isDigit = true) : isBlank c = false := by
  have range := toNat_of_isDigit digit
  simp only [isBlank, Bool.or_eq_false_iff, beq_eq_false_iff_ne, ne_eq, Bool.and_eq_false_iff,
    decide_eq_false_iff_not]
  omega

/-- What holds of the small letters one by one holds of every small letter. -/
theorem of_isLower {motive : Char → Prop} (each : ∀ n < 26, motive (Char.ofNat (97 + n)))
    {c : Char} (letter : c.isLower = true) : motive c := by
  have range := toNat_of_isLower letter
  have isSum : 97 + (c.toNat - 97) = c.toNat := by omega
  have held := each (c.toNat - 97) (by omega)
  rwa [isSum, Char.ofNat_toNat] at held

theorem isLowered_of_isLower {c : Char} (letter : c.isLower = true) : IsLowered c :=
  of_isLower (by decide) letter

theorem isLowered_of_isDigit {c : Char} (digit : c.isDigit = true) : IsLowered c := by
  have range := toNat_of_isDigit digit
  refine ⟨by omega, ?_⟩
  rw [Char.toLower, dif_neg]
  rintro ⟨atLeast, -⟩
  have : 65 ≤ c.toNat := atLeast
  omega

end TableQuery.Text
