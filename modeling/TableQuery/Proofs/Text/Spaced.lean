import Mathlib.Data.List.Basic

/-! # Words with single spaces between them

A piece without spaces that occurs in a text of words lies within one of the words.
-/

namespace TableQuery.Text

/-- The words with a space between each two. -/
def spaced : List (List Char) → List Char
  | [] => []
  | [word] => word
  | word :: rest => word ++ ' ' :: spaced rest

/-- What follows a word that these words come after. -/
def behind : List (List Char) → List Char
  | [] => []
  | words => ' ' :: spaced words

theorem spaced_cons (word : List Char) (rest : List (List Char)) :
    spaced (word :: rest) = word ++ behind rest := by
  cases rest <;> simp [spaced, behind]

@[simp] theorem behind_cons (word : List Char) (rest : List (List Char)) :
    behind (word :: rest) = ' ' :: spaced (word :: rest) := rfl

theorem exists_word_of_piece {words : List (List Char)} {before piece after : List Char}
    (noSpace : ' ' ∉ piece) (nonempty : piece ≠ [])
    (cut : spaced words = before ++ (piece ++ after)) :
    ∃ done word todo left right, words = done ++ word :: todo ∧ word = left ++ (piece ++ right) ∧
      left <:+ before ∧ after = right ++ behind todo := by
  induction words generalizing before with
  | nil =>
    simp [spaced] at cut
    exact absurd cut.2.1 nonempty
  | cons word words inductionHypothesis =>
    rw [spaced_cons] at cut
    rcases List.append_eq_append_iff.1 cut with ⟨more, rfl, later⟩ | ⟨inner, rfl, here⟩
    · -- The piece begins behind the first word.
      cases words with
      | nil =>
        simp [behind] at later
        exact absurd later.2.1 nonempty
      | cons second words =>
        cases more with
        | nil =>
          cases piece with
          | nil => exact absurd rfl nonempty
          | cons c piece =>
            simp only [behind_cons, List.nil_append, List.cons_append, List.cons.injEq] at later
            exact absurd (later.1 ▸ List.mem_cons_self) noSpace
        | cons c more =>
          simp only [behind_cons, List.cons_append, List.cons.injEq] at later
          obtain ⟨done, w, todo, left, right, split, isWord, ending, rest⟩ :=
            inductionHypothesis later.2
          refine ⟨word :: done, w, todo, left, right, by rw [split]; rfl, isWord, ?_, rest⟩
          exact ending.trans ((List.suffix_cons c more).trans (List.suffix_append word _))
    · -- The piece begins in the first word, and ends there for want of spaces.
      rcases List.append_eq_append_iff.1 here with ⟨right, rfl, rest⟩ | ⟨past, rfl, rest⟩
      · exact ⟨[], _, words, before, right, rfl, rfl, List.suffix_rfl, rest⟩
      · cases past with
        | nil =>
          refine ⟨[], _, words, before, [], rfl, by simp, List.suffix_rfl, ?_⟩
          simpa using rest.symm
        | cons c past =>
          cases words with
          | nil => simp [behind] at rest
          | cons second words =>
            simp only [behind_cons, List.cons_append, List.cons.injEq] at rest
            exact absurd (List.mem_append_right inner (rest.1 ▸ List.mem_cons_self)) noSpace

end TableQuery.Text
