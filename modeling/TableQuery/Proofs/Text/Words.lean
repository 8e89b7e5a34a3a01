import Mathlib.Data.List.Basic
import TableQuery.Text.Blank

/-! # Words of a text

The words of a text are pieces of it without blanks and with blanks next to them, or the ends of
the text.
-/

namespace TableQuery.Text

theorem words_eq_nil {s : List Char} (blank : ∀ c ∈ s, isBlank c = true) : words s = [] := by
  rw [words]
  induction s with
  | nil => rfl
  | cons c s inductionHypothesis =>
    rw [wordsFrom, if_pos (blank c List.mem_cons_self)]
    exact inductionHypothesis fun d member => blank d (List.mem_cons_of_mem _ member)

/-- Is this a word that has blanks next to it, or the ends of the text? -/
structure IsWordBetween (before word after : List Char) : Prop where
  nonempty : word ≠ []
  solid : ∀ c ∈ word, isBlank c = false
  begins : ∀ c ∈ before.getLast?, isBlank c = true
  ends : ∀ c ∈ after.head?, isBlank c = true

theorem IsWordBetween.behind_blank {before word after : List Char}
    (isWord : IsWordBetween before word after) {c : Char} (blank : isBlank c = true)
    (more : List Char) : IsWordBetween (more ++ c :: before) word after := by
  refine { isWord with begins := ?_ }
  intro d isLast
  cases isBefore : before.getLast? with
  | none => simp_all [List.getLast?_cons]
  | some e =>
    obtain rfl : e = d := by simpa [List.getLast?_cons, isBefore] using isLast
    exact isWord.begins e isBefore

/-- Each of the words stands somewhere in the text, and those after it are the words behind it. -/
theorem exists_cut_of_wordsFrom {pending s word : List Char} {done todo : List (List Char)}
    (solid : ∀ c ∈ pending, isBlank c = false)
    (split : wordsFrom pending s = done ++ word :: todo) :
    ∃ before after, pending.reverse ++ s = before ++ (word ++ after) ∧
      IsWordBetween before word after ∧ words after = todo := by
  induction s generalizing pending done with
  | nil =>
    cases pending with
    | nil => simp [wordsFrom] at split
    | cons d pending =>
      rw [wordsFrom, List.isEmpty_cons, if_neg Bool.false_ne_true, List.singleton_eq_append_iff]
        at split
      obtain ⟨rfl, isWord⟩ | ⟨-, isNil⟩ := split
      · obtain ⟨rfl, rfl⟩ := List.cons.inj isWord
        exact ⟨[], [], by simp, ⟨by simp, fun c member => solid c (List.mem_reverse.1 member), by simp,
          by simp⟩, rfl⟩
      · cases isNil
  | cons c s inductionHypothesis =>
    rw [wordsFrom] at split
    by_cases blank : isBlank c = true
    · rw [if_pos blank] at split
      have behind : ∀ done', wordsFrom [] s = done' ++ word :: todo →
          ∃ before after, pending.reverse ++ c :: s = before ++ (word ++ after) ∧
            IsWordBetween before word after ∧ words after = todo := by
        intro done' later
        obtain ⟨before, after, rfl, isWord, isTodo⟩ := inductionHypothesis (by simp) later
        exact ⟨pending.reverse ++ c :: before, after, by simp, isWord.behind_blank blank _, isTodo⟩
      cases pending with
      | nil => exact behind done (by simpa using split)
      | cons d pending =>
        rw [List.isEmpty_cons, if_neg Bool.false_ne_true] at split
        cases done with
        | cons first done => exact behind done (List.cons.inj split).2
        | nil =>
          obtain ⟨rfl, rfl⟩ := List.cons.inj split
          refine ⟨[], c :: s, by simp, ⟨by simp, fun c member => solid c (List.mem_reverse.1 member),
            by simp, by simpa⟩, ?_⟩
          rw [words, wordsFrom, if_pos blank]
          rfl
    · rw [if_neg blank] at split
      obtain ⟨before, after, cut, isWord, isTodo⟩ :=
        inductionHypothesis (List.forall_mem_cons.2 ⟨by simpa using blank, solid⟩) split
      exact ⟨before, after, by simpa using cut, isWord, isTodo⟩

theorem exists_cut_of_words {s : List Char} {done todo : List (List Char)} {word : List Char}
    (split : words s = done ++ word :: todo) :
    ∃ before after, s = before ++ (word ++ after) ∧
      IsWordBetween before word after ∧ words after = todo :=
  exists_cut_of_wordsFrom (by simp) split

theorem solid_of_mem_words {s word : List Char} (member : word ∈ words s) :
    ∀ c ∈ word, isBlank c = false := by
  obtain ⟨done, todo, split⟩ := List.append_of_mem member
  obtain ⟨before, after, -, isWord, -⟩ := exists_cut_of_words split
  exact isWord.solid

theorem exists_cut_of_getLast?_words {test : List Char → Bool} {s word : List Char}
    (isLast : ((words s).filter test).getLast? = some word) :
    ∃ before after, s = before ++ (word ++ after) ∧ IsWordBetween before word after ∧
      test word = true ∧ ∀ other ∈ words after, test other = false := by
  obtain ⟨passing, isPassing⟩ := List.getLast?_eq_some_iff.1 isLast
  obtain ⟨done, rest, isRest, -, isWord⟩ := List.filter_eq_append_iff.1 isPassing
  obtain ⟨failing, todo, rfl, -, passes, none⟩ := List.filter_eq_cons_iff.1 isWord
  rw [← List.append_assoc] at isRest
  obtain ⟨before, after, cut, isBetween, rfl⟩ := exists_cut_of_words isRest
  exact ⟨before, after, cut, isBetween, passes, by simpa using none⟩

end TableQuery.Text
