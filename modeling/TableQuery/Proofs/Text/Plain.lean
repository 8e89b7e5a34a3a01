import Mathlib
import TableQuery.Condition

/-! # Texts that stay as they are

Texts in lower-case ASCII are their own lower case, trimming changes nothing but blanks at
the ends, and a text occurs in another just if it is a piece of it.
-/

namespace TableQuery.Text

/-- Is the character in ASCII and its own lower case? -/
def IsLowered (c : Char) : Prop := c.toNat < 0x80 ∧ c.toLower = c

instance (c : Char) : Decidable (IsLowered c) := inferInstanceAs (Decidable (_ ∧ _))

theorem lowerFrom_eq_self {s : List Char} (lowered : ∀ c ∈ s, IsLowered c) (before : List Char) :
    lowerFrom before s = s := by
  induction s generalizing before with
  | nil => rfl
  | cons c rest inductionHypothesis =>
    obtain ⟨ascii, same⟩ := lowered c (by simp)
    have notSigma : (c == capitalSigma) = false := by
      rw [beq_eq_false_iff_ne]
      rintro rfl
      exact absurd ascii (by decide)
    simp only [lowerFrom, notSigma, Bool.false_eq_true, if_false, lowerChar, ascii, if_true, same]
    rw [inductionHypothesis fun d member => lowered d (by simp [member])]
    rfl

theorem lower_eq_self {s : List Char} (lowered : ∀ c ∈ s, IsLowered c) : lower s = s :=
  lowerFrom_eq_self lowered []

/-! ## Trimming -/

theorem dropWhile_eq_self {α : Type} {test : α → Bool} {s : List α}
    (head : ∀ c ∈ s.head?, test c = false) : s.dropWhile test = s := by
  cases s with
  | nil => rfl
  | cons c rest => simp [head c rfl]

theorem trim_eq_self {s : List Char} (head : ∀ c ∈ s.head?, isBlank c = false)
    (last : ∀ c ∈ s.getLast?, isBlank c = false) : trim s = s := by
  rw [trim, trimStart, dropWhile_eq_self head, trimEnd, dropWhile_eq_self, List.reverse_reverse]
  simpa using last

theorem trim_eq_self_of_solid {s : List Char} (solid : ∀ c ∈ s, isBlank c = false) : trim s = s :=
  trim_eq_self (fun c isHead => solid c (List.mem_of_mem_head? isHead))
    (fun c isLast => solid c (List.mem_of_mem_getLast? isLast))

/-! ## Occurrences -/

theorem occursIn_iff {needle s : List Char} : occursIn needle s = true ↔ needle <:+: s := by
  induction s with
  | nil => simp [occursIn]
  | cons c rest inductionHypothesis =>
    rw [occursIn, Bool.or_eq_true, List.isPrefixOf_iff_prefix, inductionHypothesis,
      List.infix_cons_iff]

end TableQuery.Text
