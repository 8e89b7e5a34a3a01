import TableQuery.Proofs.Pattern.First
import TableQuery.Proofs.Question.ClauseText
import TableQuery.Proofs.Question.SortText

/-! # Phrases of one word

A phrase is as short as it can be, so of several words it takes the first one only, and of a number
what comes before the point.  This is so between quotes, too: the closing quote may be missing, and
the blank behind the first word ends the phrase.
-/

namespace TableQuery

theorem Text.isWordChar_of_isLower {c : Char} (letter : c.isLower = true) :
    isWordChar c = true :=
  of_isLower (motive := fun c => isWordChar c = true) (by decide) letter

theorem Text.isWordChar_of_isDigit {c : Char} (digit : c.isDigit = true) :
    isWordChar c = true := by
  have range := toNat_of_isDigit digit
  have ascii : c.toNat < 0x80 := by omega
  simp [isWordChar, ascii, Char.isAlphanum, digit]

namespace Question

open Pattern

/-! ## Plain words -/

/-- Is the word made of small ASCII letters and digits? -/
structure IsPlainWord (word : List Char) : Prop where
  nonempty : word ≠ []
  plain : ∀ c ∈ word, c.isLower = true ∨ c.isDigit = true

namespace IsPlainWord

variable {word : List Char} (isPlain : IsPlainWord word)

include isPlain

theorem isWordChar : ∀ c ∈ word, Text.isWordChar c = true := fun c member =>
  (isPlain.plain c member).elim Text.isWordChar_of_isLower Text.isWordChar_of_isDigit

theorem solid : ∀ c ∈ word, Text.isBlank c = false := fun c member =>
  Text.isBlank_of_isWordChar (isPlain.isWordChar c member)

theorem isLowered : ∀ c ∈ word, Text.IsLowered c := fun c member =>
  (isPlain.plain c member).elim Text.isLowered_of_isLower Text.isLowered_of_isDigit

theorem solid_head (rest : List Char) : ∀ c ∈ (word ++ rest).head?, Text.isBlank c = false := by
  obtain ⟨c, more, rfl⟩ := List.exists_cons_of_ne_nil isPlain.nonempty
  simpa using isPlain.solid c List.mem_cons_self

end IsPlainWord

theorem forall_mem_spaced {motive : Char → Prop} {words : List (List Char)}
    (space : motive ' ') (each : ∀ word ∈ words, ∀ c ∈ word, motive c) :
    ∀ c ∈ Text.spaced words, motive c := by
  induction words with
  | nil => simp [Text.spaced]
  | cons word rest inductionHypothesis =>
    have later := inductionHypothesis fun other inRest => each other (List.mem_cons_of_mem _ inRest)
    intro c member
    rw [Text.spaced_cons, List.mem_append] at member
    cases member with
    | inl inWord => exact each word List.mem_cons_self c inWord
    | inr behind =>
      cases rest with
      | nil => cases behind
      | cons second rest =>
        rw [Text.behind_cons, List.mem_cons] at behind
        cases behind with
        | inl isSpace => exact isSpace ▸ space
        | inr inRest => exact later c inRest

theorem eq_of_append_blank {word word' rest rest' : List Char} {b b' : Char}
    (solid : ∀ c ∈ word, Text.isBlank c = false) (solid' : ∀ c ∈ word', Text.isBlank c = false)
    (isBlank : Text.isBlank b = true) (isBlank' : Text.isBlank b' = true)
    (same : word ++ b :: rest = word' ++ b' :: rest') : word = word' ∧ rest = rest' := by
  induction word generalizing word' with
  | nil =>
    cases word' with
    | nil => exact ⟨rfl, (List.cons.inj same).2⟩
    | cons c word' =>
      rw [(List.cons.inj same).1, solid' c List.mem_cons_self] at isBlank
      cases isBlank
  | cons c word inductionHypothesis =>
    cases word' with
    | nil =>
      rw [← (List.cons.inj same).1, solid c List.mem_cons_self] at isBlank'
      cases isBlank'
    | cons d word' =>
      obtain ⟨rfl, others⟩ := List.cons.inj same
      obtain ⟨rfl, rest_eq⟩ := inductionHypothesis
        (fun e member => solid e (List.mem_cons_of_mem _ member))
        (fun e member => solid' e (List.mem_cons_of_mem _ member)) others
      exact ⟨rfl, rest_eq⟩

/-! ## The end of a phrase -/

/-- Does a phrase of one word end in front of this text? -/
inductive ClosesWord : List Char → Prop where
  | space (rest : List Char) : ClosesWord (' ' :: rest)
  | point (rest : List Char) : ClosesWord ('.' :: rest)
  | quote : ClosesWord ['"']

theorem exists_closesWord (rest : List (List Char)) :
    ∃ tail, ClosesWord tail ∧ ∀ word, Text.spaced (word :: rest) ++ ['"'] = word ++ tail := by
  cases rest with
  | nil => exact ⟨['"'], .quote, fun word => by simp [Text.spaced]⟩
  | cons second rest =>
    exact ⟨_, .space (Text.spaced (second :: rest) ++ ['"']), fun word => by
      simp [Text.spaced_cons]⟩

/-- What follows the piece that a phrase remembers. -/
def phraseEnd : Pattern :=
  .seq quote (choice [blank, .edge .textEnd, text ",", text "."])

theorem prefers_doubleQuote (before rest : List Char) (ps : Pieces) :
    Prefers quote ⟨before, '"' :: rest⟩ ps (⟨'"' :: before, rest⟩, ps) := by
  refine prefers_optional ?_ (by simp)
  rfl

theorem exists_prefers_phraseEnd {tail : List Char} (closes : ClosesWord tail)
    (before : List Char) (ps : Pieces) :
    ∃ place, Prefers phraseEnd ⟨before, tail⟩ ps (place, ps) := by
  cases closes with
  | space rest =>
    have noQuote : Prefers quote ⟨before, ' ' :: rest⟩ ps (⟨before, ' ' :: rest⟩, ps) :=
      prefers_optional_stay rfl
    exact ⟨⟨' ' :: before, rest⟩, prefers_seq noQuote (by rfl)⟩
  | point rest =>
    have noQuote : Prefers quote ⟨before, '.' :: rest⟩ ps (⟨before, '.' :: rest⟩, ps) :=
      prefers_optional_stay rfl
    exact ⟨⟨'.' :: before, rest⟩, prefers_seq noQuote (by rfl)⟩
  | quote => exact ⟨⟨'"' :: before, []⟩, prefers_seq (prefers_doubleQuote before [] ps) (by rfl)⟩

theorem ne_of_isWordChar {c d : Char} (isWord : Text.isWordChar c = true)
    (isSign : Text.isWordChar d = false) : c ≠ d := by
  rintro rfl
  rw [isSign] at isWord
  cases isWord

theorem not_takes_phraseEnd {c : Char} (isWord : Text.isWordChar c = true) (s rest : List Char) :
    ¬ Takes phraseEnd (c :: s) rest := by
  intro takes
  obtain ⟨mid, closes, ends⟩ := takes_seq takes
  obtain ⟨q, isQuote, cut⟩ := exists_quote_of_takes closes
  -- The character would be a quote, or end the phrase itself.
  rcases isQuote with rfl | rfl | rfl
  · rw [List.nil_append] at cut
    subst cut
    rcases endsPhrase_of_takes ends c rfl with isBlank | comma | point
    · rw [Text.isBlank_of_isWordChar isWord] at isBlank
      cases isBlank
    · exact ne_of_isWordChar isWord (by decide) comma
    · exact ne_of_isWordChar isWord (by decide) point
  · exact ne_of_isWordChar isWord (by decide) (List.cons.inj cut).1
  · exact ne_of_isWordChar isWord (by decide) (List.cons.inj cut).1

/-! ## The word that a phrase takes -/

section

variable {word tail : List Char} (nonempty : word ≠ [])
  (isWord : ∀ c ∈ word, Text.isWordChar c = true) (closes : ClosesWord tail)

include nonempty isWord closes

theorem exists_prefers_phrase_of_opening {opening before : List Char} (ps : Pieces)
    (opens : Prefers quote ⟨before, opening ++ (word ++ tail)⟩ ps
      (⟨opening.reverse ++ before, word ++ tail⟩, ps)) :
    ∃ place start, Prefers phrase ⟨before, opening ++ (word ++ tail)⟩ ps
      (place, ⟨1, start, word⟩ :: ps) := by
  obtain ⟨c, more, rfl⟩ := List.exists_cons_of_ne_nil nonempty
  obtain ⟨place, ends⟩ := exists_prefers_phraseEnd closes
    ((c :: more).reverse ++ (opening.reverse ++ before))
    (⟨1, (opening.reverse ++ before).length, c :: more⟩ :: ps)
  have held : ∀ d ∈ c :: more, (CharSet.union .word .blank).contains d = true := by
    intro d member
    simp [isWord d member]
  have taken := prefers_few1_group held (opening.reverse ++ before) ps
    (fun d member right before ps => ways_eq_nil_of_not_takes
      (not_takes_phraseEnd (isWord d (List.mem_cons_of_mem _ member)) right)) ends
  exact ⟨place, _, prefers_seq opens taken⟩

theorem exists_prefers_phrase (before : List Char) (ps : Pieces) :
    ∃ place start, Prefers phrase ⟨before, word ++ tail⟩ ps (place, ⟨1, start, word⟩ :: ps) := by
  have opens : Prefers quote ⟨before, [] ++ (word ++ tail)⟩ ps
      (⟨[].reverse ++ before, word ++ tail⟩, ps) := by
    obtain ⟨c, more, rfl⟩ := List.exists_cons_of_ne_nil nonempty
    refine prefers_optional_stay (ways_eq_nil_of_not_takes fun rest takes => ?_)
    obtain ⟨d, held, cut⟩ := takes_one takes
    rw [← (List.cons.inj cut).1] at held
    have isWord := isWord c List.mem_cons_self
    cases contains_quotes.1 held with
    | inl double => exact ne_of_isWordChar isWord (by decide) double
    | inr single => exact ne_of_isWordChar isWord (by decide) single
  have taken := exists_prefers_phrase_of_opening nonempty isWord closes ps opens
  rwa [List.nil_append] at taken

theorem exists_prefers_quotedPhrase (before : List Char) (ps : Pieces) :
    ∃ place start, Prefers phrase ⟨before, '"' :: (word ++ tail)⟩ ps
      (place, ⟨1, start, word⟩ :: ps) := by
  have opens : Prefers quote ⟨before, ['"'] ++ (word ++ tail)⟩ ps
      (⟨['"'].reverse ++ before, word ++ tail⟩, ps) := prefers_doubleQuote before _ ps
  have taken := exists_prefers_phrase_of_opening nonempty isWord closes ps opens
  rwa [List.singleton_append] at taken

end

end Question

end TableQuery
