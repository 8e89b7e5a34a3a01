import TableQuery.Proofs.Question.Bound

/-! # What the clauses find in a query of bounds

No clause for the order, for the number of rows or with a phrase stands in a query of
bounds: such a clause would need a sign or a key where the query has something else.  A
clause with a numeral is found for a bound on its column with its sign, and nowhere else.
-/

namespace TableQuery.Question

open Pattern

variable {joiner : List Char} {bounds : List Bound}

/-! ## Blanks between words -/

theorem takes_blanks {s rest : List Char} (takes : Takes blanks s rest) :
    ∃ taken, (∀ c ∈ taken, Text.isBlank c = true) ∧ s = taken ++ rest := by
  obtain ⟨taken, held, cut⟩ := takes_many_one takes
  exact ⟨taken, by simpa using held, cut⟩

theorem takes_blanks1 {s rest : List Char} (takes : Takes blanks1 s rest) :
    ∃ c taken, (∀ d ∈ c :: taken, Text.isBlank d = true) ∧ s = c :: (taken ++ rest) := by
  obtain ⟨c, taken, held, cut⟩ := takes_many1_one takes
  exact ⟨c, taken, by simpa using held, cut⟩

theorem isBlank_of_startsSign {c : Char} (sign : StartsSign c) : Text.isBlank c = false := by
  rcases sign with rfl | rfl <;> decide

theorem isDecimalDigit_of_startsSign {c : Char} (sign : StartsSign c) :
    Text.isDecimalDigit c = false := by
  rcases sign with rfl | rfl <;> decide

theorem eq_nil_of_solid {taken rest more : List Char} {c : Char}
    (isBlanks : ∀ b ∈ taken, Text.isBlank b = true) (solid : Text.isBlank c = false)
    (same : c :: more = taken ++ rest) : taken = [] := by
  cases taken with
  | nil => rfl
  | cons b taken =>
    simp only [List.cons_append, List.cons.injEq] at same
    rw [same.1, isBlanks b (by simp)] at solid
    cases solid

theorem blanks_of_space {taken rest more : List Char} {c d : Char}
    (isBlanks : ∀ b ∈ taken, Text.isBlank b = true) (solid : Text.isBlank c = false)
    (same : ' ' :: c :: more = taken ++ d :: rest) : d = ' ' ∨ d = c ∧ rest = more := by
  cases taken with
  | nil =>
    simp only [List.nil_append, List.cons.injEq] at same
    exact .inl same.1.symm
  | cons b taken =>
    simp only [List.cons_append, List.cons.injEq] at same
    have isBlanks' : ∀ b ∈ taken, Text.isBlank b = true := fun e member =>
      isBlanks e (List.mem_cons_of_mem _ member)
    obtain rfl := eq_nil_of_solid isBlanks' solid same.2
    simp only [List.nil_append, List.cons.injEq] at same
    exact .inr ⟨same.2.1.symm, same.2.2.symm⟩

/-! ## What comes next -/

theorem AtWord.letters {word rest : List Char} (isJoiner : IsJoiner joiner)
    (writable : Writable bounds) (at_ : AtWord joiner bounds word rest) :
    ∀ c ∈ word, c.isLower = true := by
  cases at_ with
  | key member ends => exact (writable.plain _ member).letters
  | joiner member => exact isJoiner.letters

theorem AtWord.next {word rest : List Char} (writable : Writable bounds)
    (at_ : AtWord joiner bounds word rest) :
    ∃ c more, rest = ' ' :: c :: more ∧ (c.isLower = true ∨ StartsSign c) := by
  cases at_ with
  | @key b member tail ends =>
    obtain ⟨c, more, isSign, starts⟩ := startsWithSign_sign b.relation
    exact ⟨c, _, by rw [isSign]; rfl, .inr starts⟩
  | @joiner b member tail =>
    have plain := writable.plain b member
    obtain ⟨c, more, isKey⟩ := List.exists_cons_of_ne_nil plain.ne_nil
    exact ⟨c, _, by rw [isKey]; rfl, .inl (plain.letters c (by simp [isKey]))⟩

theorem isBlank_of_next {c : Char} (next : c.isLower = true ∨ StartsSign c) :
    Text.isBlank c = false :=
  next.elim Text.isBlank_of_isLower isBlank_of_startsSign

theorem next_of_letters (isJoiner : IsJoiner joiner) (writable : Writable bounds)
    {before piece taken rest : List Char} {d : Char}
    (cut : boundQuery joiner bounds = before ++ (piece ++ (taken ++ d :: rest)))
    (nonempty : piece ≠ []) (letters : ∀ c ∈ piece, c.isLower = true)
    (isBlanks : ∀ b ∈ taken, Text.isBlank b = true) :
    d = ' ' ∨ d.isLower = true ∨ StartsSign d := by
  obtain ⟨left, right, later, -, spread, at_⟩ := atWord_of_letters writable cut nonempty letters
  cases right with
  | nil =>
    obtain ⟨e, more, rfl, next⟩ := at_.next writable
    rcases blanks_of_space isBlanks (isBlank_of_next next) spread.symm with space | ⟨rfl, -⟩
    · exact .inl space
    · exact .inr next
  | cons e right =>
    have letter : e.isLower = true := at_.letters isJoiner writable e (by simp)
    obtain rfl := eq_nil_of_solid isBlanks (Text.isBlank_of_isLower letter) spread.symm
    simp only [List.cons_append, List.nil_append, List.cons.injEq] at spread
    exact .inr (.inl (spread.1 ▸ letter))

theorem not_isDecimalDigit_of_next {d : Char}
    (next : d = ' ' ∨ d.isLower = true ∨ StartsSign d) : ¬ Text.isDecimalDigit d = true := by
  intro digit
  rcases next with rfl | letter | sign
  · exact absurd digit (by decide)
  · rw [Text.isDecimalDigit_of_isLower letter] at digit
    cases digit
  · rw [isDecimalDigit_of_startsSign sign] at digit
    cases digit

/-- Is the word made of letters, and not the end of a joining word? -/
def IsLinkWord (word : List Char) : Prop :=
  word ≠ [] ∧ (∀ c ∈ word, c.isLower = true) ∧ ¬ word <:+ ['a', 'n', 'd'] ∧ ¬ word <:+ ['o', 'r']

instance (word : List Char) : Decidable (IsLinkWord word) :=
  inferInstanceAs (Decidable (_ ∧ _ ∧ _ ∧ _))

/-- Behind a word that ends no joining word and is followed by blanks stands a sign. -/
theorem startsWithSign_of_linkWord (isJoiner : IsJoiner joiner) (writable : Writable bounds)
    {before word after rest : List Char} (link : IsLinkWord word)
    (cut : boundQuery joiner bounds = before ++ (word ++ after))
    (takes : Takes blanks1 after rest) : StartsWithSign rest := by
  obtain ⟨nonempty, letters, noAnd, noOr⟩ := link
  obtain ⟨left, right, later, -, rfl, at_⟩ := atWord_of_letters writable cut nonempty letters
  obtain ⟨b, taken, isBlanks, spread⟩ := takes_blanks1 takes
  have lettersAll := at_.letters isJoiner writable
  cases right with
  | cons e right =>
    have solid := Text.isBlank_of_isLower (lettersAll e (by simp))
    cases eq_nil_of_solid isBlanks solid spread
  | nil =>
    rw [List.append_nil] at at_
    -- A joining word would end in `word`; so the letters are those of a key.
    generalize isWord : left ++ word = whole at at_
    cases at_ with
    | joiner member =>
      have suffix : word <:+ joiner := ⟨left, isWord⟩
      rcases isJoiner with rfl | rfl
      · exact absurd suffix noAnd
      · exact absurd suffix noOr
    | @key bound member tail ends =>
      obtain ⟨c, more, isSign, starts⟩ := startsWithSign_sign bound.relation
      rw [isSign] at spread
      simp only [List.nil_append, List.cons_append, List.cons.injEq] at spread
      have isBlanks' : ∀ d ∈ taken, Text.isBlank d = true := fun d member =>
        isBlanks d (List.mem_cons_of_mem _ member)
      obtain rfl := eq_nil_of_solid isBlanks' (isBlank_of_startsSign starts) spread.2
      exact ⟨c, _, spread.2.symm, starts⟩

theorem not_startsSign_of_isLower {c : Char} (letter : c.isLower = true) : ¬ StartsSign c := by
  rintro (rfl | rfl) <;> exact absurd letter (by decide)

theorem not_startsWithSign_of_takes {word s rest : List Char} (nonempty : word ≠ [])
    (letters : ∀ c ∈ word, c.isLower = true) (takes : Takes (literal word) s rest) :
    ¬ StartsWithSign s := by
  rintro ⟨c, more, rfl, starts⟩
  obtain ⟨d, word, rfl⟩ := List.exists_cons_of_ne_nil nonempty
  have spread := takes_literal takes
  simp only [List.cons_append, List.cons.injEq] at spread
  exact not_startsSign_of_isLower (letters d (by simp)) (spread.1 ▸ starts)

/-! ## Clauses with phrases -/

theorem takes_quote {s rest : List Char} (takes : Takes quote s rest) :
    rest = s ∨ ∃ c, s = c :: rest ∧ ¬ StartsSign c := by
  cases takes_optional takes with
  | inl same => exact .inl same
  | inr taken =>
    obtain ⟨c, held, cut⟩ := takes_one taken
    refine .inr ⟨c, cut, ?_⟩
    rintro (rfl | rfl) <;> exact absurd held (by decide)

theorem not_startsWithSign_of_takes_phrase {s rest : List Char} (takes : Takes phrase s rest) :
    ¬ StartsWithSign s := by
  rintro ⟨c, more, rfl, starts⟩
  obtain ⟨mid, quoted, others⟩ := takes_sequence_cons takes
  rcases takes_quote quoted with rfl | ⟨d, isCons, notSign⟩
  · obtain ⟨mid, value, -⟩ := takes_sequence_cons others
    obtain ⟨taken, long, held, cut⟩ := takes_rep_one (takes_group value)
    cases taken with
    | nil => simp at long
    | cons d taken =>
      simp only [List.cons_append, List.cons.injEq] at cut
      have inPhrase := held c (by simp [cut.1])
      rcases starts with rfl | rfl <;> exact absurd inPhrase (by decide)
  · simp only [List.cons.injEq] at isCons
    exact notSign (isCons.1 ▸ starts)

/-- Is the word one that a clause puts between column and phrase: letters, or signs of
    equality? -/
def IsLink (word : List Char) : Prop := IsLinkWord word ∨ word.head? = some '='

instance (word : List Char) : Decidable (IsLink word) := inferInstanceAs (Decidable (_ ∨ _))

/-- If a link with blanks around it is found behind a key, a sign follows. -/
theorem startsWithSign_of_link (isJoiner : IsJoiner joiner) (writable : Writable bounds)
    {before key s word after rest : List Char} (keyNonempty : key ≠ [])
    (keyLetters : ∀ c ∈ key, c.isLower = true)
    (cut : boundQuery joiner bounds = before ++ (key ++ s)) (gap : Takes blanks1 s (word ++ after))
    (link : IsLink word) (gap' : Takes blanks1 after rest) :
    StartsWithSign rest := by
  obtain ⟨b, taken, isBlanks, rfl⟩ := takes_blanks1 gap
  cases link with
  | inl letters =>
    have cut' : boundQuery joiner bounds = (before ++ key ++ b :: taken) ++ (word ++ after) := by
      rw [cut]
      simp
    exact startsWithSign_of_linkWord isJoiner writable letters cut' gap'
  | inr equality =>
    obtain ⟨more, rfl⟩ := List.head?_eq_some_iff.1 equality
    have cut' : boundQuery joiner bounds =
        before ++ (key ++ ((b :: taken) ++ '=' :: (more ++ after))) := cut
    -- A sign of equality is none of what can come next.
    have next := next_of_letters isJoiner writable cut' keyNonempty keyLetters isBlanks
    exact absurd next (by rintro (same | same | same | same) <;> exact absurd same (by decide))

section

variable {key : List Char} (isJoiner : IsJoiner joiner) (writable : Writable bounds)
  (keyNonempty : key ≠ []) (keyLetters : ∀ c ∈ key, c.isLower = true)

include isJoiner writable keyNonempty keyLetters

/-- A clause with a link behind the column would need a sign to be followed by more. -/
theorem not_takes_linked {link last : Pattern} {before s rest : List Char}
    (cut : boundQuery joiner bounds = before ++ s)
    (links : ∀ s rest, Takes link s rest → ∃ word, s = word ++ rest ∧ IsLink word)
    (noSign : ∀ s rest, Takes last s rest → ¬ StartsWithSign s) :
    ¬ Takes (.seq (literal key) (.seq blanks1 (.seq link (.seq blanks1 last)))) s rest := by
  intro takes
  obtain ⟨afterKey, atKey, takes⟩ := takes_seq takes
  obtain ⟨afterGap, gap, takes⟩ := takes_seq takes
  obtain ⟨afterLink, atLink, takes⟩ := takes_seq takes
  obtain ⟨afterGap', gap', takes⟩ := takes_seq takes
  rw [takes_literal atKey] at cut
  obtain ⟨word, isWord, link⟩ := links _ _ atLink
  rw [isWord] at gap
  exact noSign _ _ takes
    (startsWithSign_of_link isJoiner writable keyNonempty keyLetters cut gap link gap')

/-- A clause such as `find <column> <phrase>` would need a sign to be a key. -/
theorem not_takes_verb {verbs : List String} {last : Pattern} {before s rest : List Char}
    (cut : boundQuery joiner bounds = before ++ s)
    (links : ∀ verb ∈ verbs, IsLinkWord verb.toList) :
    ¬ Takes (.seq (oneOf verbs) (.seq blanks1 (.seq (literal key) last))) s rest := by
  intro takes
  obtain ⟨afterVerb, atVerb, takes⟩ := takes_seq takes
  obtain ⟨afterGap, gap, takes⟩ := takes_seq takes
  obtain ⟨afterKey, atKey, -⟩ := takes_seq takes
  obtain ⟨verb, member, isVerb⟩ := takes_oneOf atVerb
  rw [isVerb] at cut
  exact not_startsWithSign_of_takes keyNonempty keyLetters atKey
    (startsWithSign_of_linkWord isJoiner writable (links verb member) cut gap)

theorem not_takes_equality {last : Pattern} {before s rest : List Char}
    (cut : boundQuery joiner bounds = before ++ s) :
    ¬ Takes (.seq (optional (.seq (text "where") blanks1))
      (.seq (literal key) (.seq blanks (.seq (oneOf ["=", "=="]) last)))) s rest := by
  intro takes
  obtain ⟨afterWhere, leading, takes⟩ := takes_seq takes
  obtain ⟨afterKey, atKey, takes⟩ := takes_seq takes
  obtain ⟨afterGap, gap, takes⟩ := takes_seq takes
  obtain ⟨afterSign, atSign, -⟩ := takes_seq takes
  rcases takes_optional leading with rfl | withWhere
  · obtain ⟨taken, isBlanks, spread⟩ := takes_blanks gap
    obtain ⟨word, member, isWord⟩ := takes_oneOf atSign
    have starts : ∃ more, afterGap = '=' :: more := by
      simp only [List.mem_cons, List.not_mem_nil, or_false] at member
      rcases member with rfl | rfl <;> exact ⟨_, isWord⟩
    obtain ⟨more, rfl⟩ := starts
    rw [takes_literal atKey, spread] at cut
    have next := next_of_letters isJoiner writable cut keyNonempty keyLetters isBlanks
    exact absurd next (by rintro (same | same | same | same) <;> exact absurd same (by decide))
  · obtain ⟨afterWord, atWord, gap'⟩ := takes_seq withWhere
    rw [takes_literal atWord] at cut
    exact not_startsWithSign_of_takes keyNonempty keyLetters atKey
      (startsWithSign_of_linkWord isJoiner writable (by decide) cut gap')

end

theorem spelled_text (word : String) {words : List (List Char)} (member : word.toList ∈ words)
    (s rest : List Char) (takes : Takes (text word) s rest) :
    ∃ word ∈ words, s = word ++ rest :=
  ⟨_, member, takes_literal takes⟩

theorem spelled_shortable (stem last : String) {words : List (List Char)}
    (short : stem.toList ∈ words) (long : stem.toList ++ last.toList ∈ words)
    (s rest : List Char) (takes : Takes (shortable stem last) s rest) :
    ∃ word ∈ words, s = word ++ rest := by
  obtain ⟨mid, first, second⟩ := takes_seq takes
  have isStem := takes_literal first
  rcases takes_optional second with rfl | more
  · exact ⟨_, short, isStem⟩
  · exact ⟨_, long, by rw [isStem, takes_literal more, List.append_assoc]⟩

/-- The words between a column and what it is named. -/
def nameLinks : List String := ["named", "called", "as"]

/-- The words between a column and what it equals. -/
def equalityLinks : List String := ["is", "equal", "equals", "=", "=="]

/-- The words between a column and what it contains. -/
def containmentLinks : List String :=
  ["contain", "contains", "like", "has", "include", "includes"]

theorem takes_equalityLink {s rest : List Char}
    (takes : Takes (choice [text "is", shortable "equal" "s", text "=", text "=="]) s rest) :
    ∃ link ∈ equalityLinks, s = link.toList ++ rest := by
  have spelled : ∀ p ∈ [text "is", shortable "equal" "s", text "=", text "=="],
      ∀ s rest, Takes p s rest → ∃ word ∈ equalityLinks.map String.toList, s = word ++ rest := by
    simp only [List.forall_mem_cons]
    exact ⟨spelled_text _ (by decide), spelled_shortable _ _ (by decide) (by decide),
      spelled_text _ (by decide), spelled_text _ (by decide), by simp⟩
  obtain ⟨p, member, taken⟩ := takes_choice takes
  simpa using spelled p member s rest taken

theorem takes_containmentLink {s rest : List Char}
    (takes : Takes (choice [shortable "contain" "s", text "like", text "has",
      shortable "include" "s"]) s rest) :
    ∃ link ∈ containmentLinks, s = link.toList ++ rest := by
  have spelled : ∀ p ∈ [shortable "contain" "s", text "like", text "has", shortable "include" "s"],
      ∀ s rest, Takes p s rest →
        ∃ word ∈ containmentLinks.map String.toList, s = word ++ rest := by
    simp only [List.forall_mem_cons]
    exact ⟨spelled_shortable _ _ (by decide) (by decide), spelled_text _ (by decide),
      spelled_text _ (by decide), spelled_shortable _ _ (by decide) (by decide), by simp⟩
  obtain ⟨p, member, taken⟩ := takes_choice takes
  simpa using spelled p member s rest taken

theorem not_startsWithSign_of_takes_asPhrase {s rest : List Char}
    (takes : Takes (.seq (optional (.seq (text "as") blanks1)) phrase) s rest) :
    ¬ StartsWithSign s := by
  obtain ⟨mid, again, atPhrase⟩ := takes_seq takes
  rcases takes_optional again with rfl | atAs
  · exact not_startsWithSign_of_takes_phrase atPhrase
  · obtain ⟨afterAs, asWord, -⟩ := takes_seq atAs
    exact not_startsWithSign_of_takes (by decide) (by decide) asWord

/-- The clauses that capture a text. -/
def textRules : List ColumnRule := columnRules.take 5

theorem find?_textRule_eq_none (isJoiner : IsJoiner joiner) (writable : Writable bounds)
    {key : List Char} (keyNonempty : key ≠ []) (keyLetters : ∀ c ∈ key, c.isLower = true)
    {rule : ColumnRule} (member : rule ∈ textRules) :
    find? (rule.pattern (literal key)) (boundQuery joiner bounds) = none := by
  refine find?_eq_none fun place ⟨before, cut⟩ => ways_eq_nil_of_not_takes fun rest => ?_
  simp only [textRules, columnRules, List.take_succ_cons, List.take_zero, List.mem_cons,
    List.not_mem_nil, or_false] at member
  rcases member with rfl | rfl | rfl | rfl | rfl
  · refine not_takes_linked isJoiner writable keyNonempty keyLetters cut (fun s rest atLink => ?_)
      fun s rest atPhrase => not_startsWithSign_of_takes_asPhrase atPhrase
    obtain ⟨link, isLink, isWord⟩ := takes_oneOf atLink
    have links : ∀ link ∈ nameLinks, IsLink link.toList := by decide
    exact ⟨_, isWord, links link isLink⟩
  · refine not_takes_linked isJoiner writable keyNonempty keyLetters cut (fun s rest atLink => ?_)
      fun s rest atPhrase => not_startsWithSign_of_takes_phrase atPhrase
    obtain ⟨link, isLink, isWord⟩ := takes_equalityLink atLink
    have links : ∀ link ∈ equalityLinks, IsLink link.toList := by decide
    exact ⟨_, isWord, links link isLink⟩
  · refine not_takes_linked isJoiner writable keyNonempty keyLetters cut (fun s rest atLink => ?_)
      fun s rest atPhrase => not_startsWithSign_of_takes_phrase atPhrase
    obtain ⟨link, isLink, isWord⟩ := takes_containmentLink atLink
    have links : ∀ link ∈ containmentLinks, IsLink link.toList := by decide
    exact ⟨_, isWord, links link isLink⟩
  · exact not_takes_verb isJoiner writable keyNonempty keyLetters cut (by decide)
  · exact not_takes_equality isJoiner writable keyNonempty keyLetters cut

/-! ## Clauses for the order and the number of rows -/

/-- No clause for the order is found: it would need a sign to be a word. -/
theorem find?_sortClause_eq_none (isJoiner : IsJoiner joiner) (writable : Writable bounds) :
    find? sortClause (boundQuery joiner bounds) = none := by
  refine find?_eq_none fun place ⟨before, cut⟩ => ways_eq_nil_of_not_takes fun rest takes => ?_
  obtain ⟨afterVerb, atVerb, takes⟩ := takes_sequence_cons takes
  obtain ⟨afterGap, gap, takes⟩ := takes_sequence_cons takes
  obtain ⟨afterBy, byWord, takes⟩ := takes_sequence_cons takes
  obtain ⟨afterColumn, column, -⟩ := takes_sequence_cons takes
  obtain ⟨verb, member, isVerb⟩ := takes_oneOf atVerb
  rw [isVerb] at cut
  have links : ∀ verb ∈ ["sort", "order"], IsLinkWord verb.toList := by decide
  have sign := startsWithSign_of_linkWord isJoiner writable (links verb member) cut gap
  rcases takes_optional byWord with rfl | withBy
  · obtain ⟨c, more, rfl, starts⟩ := sign
    obtain ⟨d, taken, held, isCons⟩ := takes_many1_one (takes_group column)
    simp only [List.cons.injEq] at isCons
    have inWord := held d (by simp)
    rw [← isCons.1] at inWord
    rcases starts with rfl | rfl <;> exact absurd inWord (by decide)
  · obtain ⟨afterText, byText, -⟩ := takes_seq withBy
    exact not_startsWithSign_of_takes (by decide) (by decide) byText sign

/-- No clause for the number of rows is found: behind letters stands no digit. -/
theorem find?_limitClause_eq_none (isJoiner : IsJoiner joiner) (writable : Writable bounds) :
    find? limitClause (boundQuery joiner bounds) = none := by
  refine find?_eq_none fun place ⟨before, cut⟩ => ways_eq_nil_of_not_takes fun rest takes => ?_
  obtain ⟨afterWord, atWord, takes⟩ := takes_sequence_cons takes
  obtain ⟨afterGap, gap, takes⟩ := takes_sequence_cons takes
  obtain ⟨word, member, isWord⟩ := takes_oneOf atWord
  obtain ⟨taken, isBlanks, spread⟩ := takes_blanks gap
  obtain ⟨d, digits, held, isCons⟩ := takes_many1_one (takes_group takes)
  have digit : Text.isDecimalDigit d = true := by simpa using held d (by simp)
  rw [isWord, spread, isCons] at cut
  have letters : ∀ word ∈ ["top", "first", "limit"],
      word.toList ≠ [] ∧ ∀ c ∈ word.toList, c.isLower = true := by decide
  obtain ⟨nonempty, isLetters⟩ := letters word member
  have next := next_of_letters isJoiner writable cut nonempty isLetters isBlanks
  exact not_isDecimalDigit_of_next next digit

end TableQuery.Question
