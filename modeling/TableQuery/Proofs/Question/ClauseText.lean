import TableQuery.Proofs.Question.Phrase

/-! # The text of a clause for a column

A rule for columns takes a piece of a text just where a name of the column stands with the rest of
a clause around it: a link and a phrase behind it, a verb in front of it, or a comparison with a
number behind it.
-/

namespace TableQuery.Question

open Pattern

/-! ## The parts of a clause -/

/-- The words between a column and a phrase. -/
def phraseLinks : List String := nameLinks ++ equalityLinks ++ containmentLinks

/-- The words in front of a column that a phrase follows. -/
def searchVerbs : List String := ["find", "show", "get", "search"]

/-- Is this a quote, or nothing? -/
def IsQuote (s : List Char) : Prop := s = [] ∨ s = ['"'] ∨ s = ['\'']

/-- Are these blanks, and at least one? -/
def IsGap (s : List Char) : Prop := s ≠ [] ∧ ∀ c ∈ s, Text.isBlank c = true

/-- Can a phrase end in front of this text? -/
def EndsPhrase (s : List Char) : Prop := ∀ c ∈ s.head?, Text.isBlank c = true ∨ c = ',' ∨ c = '.'

/-- Does the text begin with a phrase?  It is made of words and blanks, with or without quotes. -/
inductive BeginsPhrase : List Char → Prop where
  | intro {opening said closing rest : List Char} (isOpening : IsQuote opening)
      (nonempty : said ≠ []) (isSaid : ∀ c ∈ said, Text.isWordChar c = true ∨ Text.isBlank c = true)
      (isClosing : IsQuote closing) (ends : EndsPhrase rest) :
      BeginsPhrase (opening ++ (said ++ (closing ++ rest)))

/-- Does a clause that captures a text stand around a name that is between these two? -/
inductive HasTextClause : List Char → List Char → Prop where
  | linked (before : List Char) {gap gap' phrase : List Char} {link : String} (isGap : IsGap gap)
      (isLink : link ∈ phraseLinks) (isGap' : IsGap gap') (begins : BeginsPhrase phrase) :
      HasTextClause before (gap ++ (link.toList ++ (gap' ++ phrase)))
  | searched (before : List Char) {gap gap' phrase : List Char} {verb : String}
      (isVerb : verb ∈ searchVerbs) (isGap : IsGap gap) (isGap' : IsGap gap')
      (begins : BeginsPhrase phrase) :
      HasTextClause (before ++ (verb.toList ++ gap)) (gap' ++ phrase)
  | equated (before : List Char) {blanks blanks' opening rest : List Char} {sign : String}
      {c : Char}
      (isBlanks : ∀ b ∈ blanks, Text.isBlank b = true) (isSign : sign ∈ ["=", "=="])
      (isBlanks' : ∀ b ∈ blanks', Text.isBlank b = true) (isOpening : IsQuote opening)
      (isWord : Text.isWordChar c = true) :
      HasTextClause before (blanks ++ (sign.toList ++ (blanks' ++ (opening ++ c :: rest))))

/-- Is the name in front of this text compared with a number? -/
inductive BeginsComparison : List Char → Prop where
  | intro {relation : Relation} {blanks blanks' rest : List Char} {saying : String} {d : Char}
      (isBlanks : ∀ b ∈ blanks, Text.isBlank b = true) (isSaying : saying ∈ relation.sayings)
      (isBlanks' : ∀ b ∈ blanks', Text.isBlank b = true) (digit : Text.isDecimalDigit d = true) :
      BeginsComparison (blanks ++ (saying.toList ++ (blanks' ++ d :: rest)))

/-! ## What a clause that is found tells -/

theorem takes_gap {s rest : List Char} (takes : Takes blanks1 s rest) :
    ∃ gap, IsGap gap ∧ s = gap ++ rest := by
  obtain ⟨c, taken, isBlanks, rfl⟩ := takes_blanks1 takes
  exact ⟨c :: taken, ⟨List.cons_ne_nil _ _, isBlanks⟩, rfl⟩

theorem takes_names {names : List (List Char)} {s rest : List Char}
    (takes : Takes (choice (names.map literal)) s rest) : ∃ name ∈ names, s = name ++ rest := by
  obtain ⟨p, member, taken⟩ := takes_choice takes
  obtain ⟨name, isName, rfl⟩ := List.mem_map.1 member
  exact ⟨name, isName, takes_literal taken⟩

theorem contains_quotes {c : Char} :
    (CharSet.ofList ['"', '\'']).contains c = true ↔ c = '"' ∨ c = '\'' := by
  have unfolded : (CharSet.ofList ['"', '\'']).contains c = ('"' == c || ('\'' == c || false)) := by
    simp only [CharSet.ofList, List.foldr_cons, List.foldr_nil, CharSet.contains_union,
      CharSet.contains_single]
    rfl
  simp only [unfolded, Bool.or_eq_true, beq_iff_eq, Bool.false_eq_true, or_false]
  exact or_congr eq_comm eq_comm

theorem exists_quote_of_takes {s rest : List Char} (takes : Takes quote s rest) :
    ∃ q, IsQuote q ∧ s = q ++ rest := by
  cases takes_optional takes with
  | inl same => exact ⟨[], .inl rfl, same.symm⟩
  | inr taken =>
    obtain ⟨c, held, rfl⟩ := takes_one taken
    cases contains_quotes.1 held with
    | inl double => exact ⟨['"'], .inr (.inl rfl), by rw [double]; rfl⟩
    | inr single => exact ⟨['\''], .inr (.inr rfl), by rw [single]; rfl⟩

theorem takes_textEnd {s rest : List Char} (takes : Takes (.edge .textEnd) s rest) : s = [] := by
  obtain ⟨before, ps, way, member, -⟩ := takes
  cases s with
  | nil => rfl
  | cons c s => simp [ways, Boundary.holds] at member

theorem endsPhrase_of_takes {s rest : List Char}
    (takes : Takes (choice [blank, .edge .textEnd, text ",", text "."]) s rest) :
    EndsPhrase s := by
  obtain ⟨p, member, taken⟩ := takes_choice takes
  simp only [List.mem_cons, List.not_mem_nil, or_false] at member
  rcases member with rfl | rfl | rfl | rfl
  · obtain ⟨c, held, rfl⟩ := takes_one taken
    simpa [EndsPhrase] using .inl (by simpa using held)
  · simp [EndsPhrase, takes_textEnd taken]
  · simp [EndsPhrase, takes_literal taken]
  · simp [EndsPhrase, takes_literal taken]

theorem beginsPhrase_of_takes {s rest : List Char} (takes : Takes phrase s rest) :
    BeginsPhrase s := by
  obtain ⟨afterOpening, opens, takes⟩ := takes_sequence_cons takes
  obtain ⟨afterSaid, atSaid, takes⟩ := takes_sequence_cons takes
  obtain ⟨afterClosing, closes, ends⟩ := takes_sequence_cons takes
  obtain ⟨opening, isOpening, rfl⟩ := exists_quote_of_takes opens
  obtain ⟨said, long, held, rfl⟩ := takes_rep_one (takes_group atSaid)
  obtain ⟨closing, isClosing, rfl⟩ := exists_quote_of_takes closes
  exact .intro isOpening (List.length_pos_iff.1 long) (by simpa using held) isClosing
    (endsPhrase_of_takes ends)

theorem beginsPhrase_of_takes_asPhrase {s rest : List Char}
    (takes : Takes (.seq (optional (.seq (text "as") blanks1)) phrase) s rest) :
    BeginsPhrase s := by
  obtain ⟨mid, again, atPhrase⟩ := takes_seq takes
  cases takes_optional again with
  | inl same => exact same ▸ beginsPhrase_of_takes atPhrase
  | inr atAs =>
    -- A second `as` is a phrase itself, which the blanks behind it end.
    obtain ⟨afterAs, asWord, gap⟩ := takes_seq atAs
    obtain ⟨c, taken, isBlanks, rfl⟩ := takes_blanks1 gap
    have ends : EndsPhrase (c :: (taken ++ mid)) := by
      simp [EndsPhrase, isBlanks c List.mem_cons_self]
    have isAs : "as".toList ≠ [] ∧ ∀ c ∈ "as".toList, Text.isWordChar c = true := by decide
    have begins := BeginsPhrase.intro (.inl rfl) isAs.1 (fun d member => .inl (isAs.2 d member))
      (.inl rfl) ends
    rw [takes_literal asWord]
    exact begins

section

variable {names : List (List Char)} {s rest : List Char}

theorem exists_linked_of_takes {link last : Pattern}
    (links : ∀ s rest, Takes link s rest → ∃ link ∈ phraseLinks, s = link.toList ++ rest)
    (phrases : ∀ s rest, Takes last s rest → BeginsPhrase s)
    (takes : Takes (.seq (choice (names.map literal))
      (.seq blanks1 (.seq link (.seq blanks1 last)))) s rest) (before : List Char) :
    ∃ name ∈ names, ∃ after, s = name ++ after ∧ HasTextClause before after := by
  obtain ⟨afterName, atName, takes⟩ := takes_seq takes
  obtain ⟨afterGap, atGap, takes⟩ := takes_seq takes
  obtain ⟨afterLink, atLink, takes⟩ := takes_seq takes
  obtain ⟨afterGap', atGap', atPhrase⟩ := takes_seq takes
  obtain ⟨name, isName, rfl⟩ := takes_names atName
  obtain ⟨gap, isGap, rfl⟩ := takes_gap atGap
  obtain ⟨link, isLink, rfl⟩ := links _ _ atLink
  obtain ⟨gap', isGap', rfl⟩ := takes_gap atGap'
  exact ⟨name, isName, _, rfl, .linked before isGap isLink isGap' (phrases _ _ atPhrase)⟩

theorem exists_searched_of_takes
    (takes : Takes (sequence [oneOf searchVerbs, blanks1, choice (names.map literal), blanks1,
      phrase]) s rest) (before : List Char) :
    ∃ name ∈ names, ∃ start after, s = start ++ (name ++ after) ∧
      HasTextClause (before ++ start) after := by
  obtain ⟨afterVerb, atVerb, takes⟩ := takes_sequence_cons takes
  obtain ⟨afterGap, atGap, takes⟩ := takes_sequence_cons takes
  obtain ⟨afterName, atName, takes⟩ := takes_sequence_cons takes
  obtain ⟨afterGap', atGap', atPhrase⟩ := takes_sequence_cons takes
  obtain ⟨verb, isVerb, rfl⟩ := takes_oneOf atVerb
  obtain ⟨gap, isGap, rfl⟩ := takes_gap atGap
  obtain ⟨name, isName, rfl⟩ := takes_names atName
  obtain ⟨gap', isGap', rfl⟩ := takes_gap atGap'
  exact ⟨name, isName, verb.toList ++ gap, _, by simp,
    .searched before isVerb isGap isGap' (beginsPhrase_of_takes atPhrase)⟩

theorem exists_equated_of_takes
    (takes : Takes (sequence [optional (.seq (text "where") blanks1), choice (names.map literal),
      blanks, oneOf ["=", "=="], blanks, quote, .group 1 (many1 (.one .word)), quote]) s rest)
    (before : List Char) :
    ∃ name ∈ names, ∃ start after, s = start ++ (name ++ after) ∧
      HasTextClause (before ++ start) after := by
  obtain ⟨afterWhere, leading, takes⟩ := takes_sequence_cons takes
  obtain ⟨afterName, atName, takes⟩ := takes_sequence_cons takes
  obtain ⟨afterBlanks, atBlanks, takes⟩ := takes_sequence_cons takes
  obtain ⟨afterSign, atSign, takes⟩ := takes_sequence_cons takes
  obtain ⟨afterBlanks', atBlanks', takes⟩ := takes_sequence_cons takes
  obtain ⟨afterOpening, opens, takes⟩ := takes_sequence_cons takes
  obtain ⟨afterWord, atWord, -⟩ := takes_sequence_cons takes
  obtain ⟨name, isName, rfl⟩ := takes_names atName
  obtain ⟨blanks, isBlanks, rfl⟩ := takes_blanks atBlanks
  obtain ⟨sign, isSign, rfl⟩ := takes_oneOf atSign
  obtain ⟨blanks', isBlanks', rfl⟩ := takes_blanks atBlanks'
  obtain ⟨opening, isOpening, rfl⟩ := exists_quote_of_takes opens
  obtain ⟨c, word, held, rfl⟩ := takes_many1_one (takes_group atWord)
  have isWord : Text.isWordChar c = true := by simpa using held c List.mem_cons_self
  obtain ⟨start, rfl⟩ : ∃ start, s = start ++ (name ++
      (blanks ++ (sign.toList ++ (blanks' ++ (opening ++ c :: (word ++ afterWord)))))) := by
    cases takes_optional leading with
    | inl same => exact ⟨[], same.symm⟩
    | inr withWhere =>
      obtain ⟨afterText, atText, atGap⟩ := takes_seq withWhere
      obtain ⟨gap, -, rfl⟩ := takes_gap atGap
      exact ⟨"where".toList ++ gap, by rw [takes_literal atText, List.append_assoc]⟩
  exact ⟨name, isName, start, _, rfl,
    .equated (before ++ start) isBlanks isSign isBlanks' isOpening isWord⟩

theorem exists_compared_of_takes {relation : Relation}
    (takes : Takes (relation.rule.pattern (choice (names.map literal))) s rest) :
    ∃ name ∈ names, ∃ after, s = name ++ after ∧ BeginsComparison after := by
  obtain ⟨afterName, atName, takes⟩ := takes_sequence_cons takes
  obtain ⟨afterBlanks, atBlanks, takes⟩ := takes_sequence_cons takes
  obtain ⟨afterSaying, atSaying, takes⟩ := takes_sequence_cons takes
  obtain ⟨afterBlanks', atBlanks', atNumeral⟩ := takes_sequence_cons takes
  obtain ⟨name, isName, rfl⟩ := takes_names atName
  obtain ⟨blanks, isBlanks, rfl⟩ := takes_blanks atBlanks
  obtain ⟨saying, isSaying, rfl⟩ := takes_oneOf atSaying
  obtain ⟨blanks', isBlanks', rfl⟩ := takes_blanks atBlanks'
  obtain ⟨d, more, rfl, digit⟩ := takes_numeral atNumeral
  exact ⟨name, isName, _, rfl, .intro isBlanks isSaying isBlanks' digit⟩

/-- A rule takes a piece only where one of the names stands with a clause around it. -/
theorem exists_clause_of_takes {rule : ColumnRule} (inRules : rule ∈ columnRules)
    (takes : Takes (rule.pattern (choice (names.map literal))) s rest) (before : List Char) :
    ∃ name ∈ names, ∃ start after, s = start ++ (name ++ after) ∧
      (HasTextClause (before ++ start) after ∨ BeginsComparison after) := by
  have ofLinked : (∃ name ∈ names, ∃ after, s = name ++ after ∧ HasTextClause before after) →
      ∃ name ∈ names, ∃ start after, s = start ++ (name ++ after) ∧
        (HasTextClause (before ++ start) after ∨ BeginsComparison after) := by
    rintro ⟨name, isName, after, cut, clause⟩
    exact ⟨name, isName, [], after, cut, .inl (by simpa using clause)⟩
  rw [columnRules_eq, List.mem_append, List.mem_map] at inRules
  rcases inRules with inTextRules | ⟨relation, -, rfl⟩
  · simp only [textRules, columnRules, List.take_succ_cons, List.take_zero, List.mem_cons,
      List.not_mem_nil, or_false] at inTextRules
    rcases inTextRules with rfl | rfl | rfl | rfl | rfl
    · refine ofLinked (exists_linked_of_takes (fun s rest atLink => ?_)
        (fun s rest => beginsPhrase_of_takes_asPhrase) takes before)
      obtain ⟨link, isLink, split⟩ := takes_oneOf atLink
      exact ⟨link, List.mem_append_left _ (List.mem_append_left _ isLink), split⟩
    · refine ofLinked (exists_linked_of_takes (fun s rest atLink => ?_)
        (fun s rest => beginsPhrase_of_takes) takes before)
      obtain ⟨link, isLink, split⟩ := takes_equalityLink atLink
      exact ⟨link, List.mem_append_left _ (List.mem_append_right _ isLink), split⟩
    · refine ofLinked (exists_linked_of_takes (fun s rest atLink => ?_)
        (fun s rest => beginsPhrase_of_takes) takes before)
      obtain ⟨link, isLink, split⟩ := takes_containmentLink atLink
      exact ⟨link, List.mem_append_right _ isLink, split⟩
    · obtain ⟨name, isName, start, after, cut, clause⟩ := exists_searched_of_takes takes before
      exact ⟨name, isName, start, after, cut, .inl clause⟩
    · obtain ⟨name, isName, start, after, cut, clause⟩ := exists_equated_of_takes takes before
      exact ⟨name, isName, start, after, cut, .inl clause⟩
  · obtain ⟨name, isName, after, cut, compares⟩ := exists_compared_of_takes takes
    exact ⟨name, isName, [], after, cut, .inr compares⟩

end

/-! ## Clauses that are found -/

theorem gives_gap {gap : List Char} (isGap : IsGap gap) (rest : List Char) :
    Gives blanks1 gap rest :=
  gives_rep_one true (List.length_pos_iff.2 isGap.1) (by simpa using isGap.2) rest

theorem gives_blanks {taken : List Char} (isBlanks : ∀ c ∈ taken, Text.isBlank c = true)
    (rest : List Char) : Gives blanks taken rest :=
  gives_rep_one true (Nat.zero_le _) (by simpa using isBlanks) rest

theorem gives_quote {q : List Char} (isQuote : IsQuote q) (rest : List Char) :
    Gives quote q rest := by
  have gives_one (c : Char) (held : (CharSet.ofList ['"', '\'']).contains c = true) :
      Gives quote [c] rest := by
    refine gives_optional (fun before ps => ⟨ps, ?_⟩) (List.cons_ne_nil c [])
    simp [ways, held]
  rcases isQuote with rfl | rfl | rfl
  · exact gives_optional_stay _ rest
  · exact gives_one '"' (contains_quotes.2 (.inl rfl))
  · exact gives_one '\'' (contains_quotes.2 (.inr rfl))

theorem gives_names {names : List (List Char)} {name : List Char} (isName : name ∈ names)
    (rest : List Char) : Gives (choice (names.map literal)) name rest :=
  gives_choice (List.mem_map_of_mem isName) (gives_literal name rest)

theorem gives_shortable_stem (stem last : String) (rest : List Char) :
    Gives (shortable stem last) stem.toList rest := by
  have gives : Gives (shortable stem last) (stem.toList ++ []) rest :=
    gives_seq (gives_literal _ _) (gives_optional_stay _ _)
  rwa [List.append_nil] at gives

theorem gives_shortable_full (stem : String) {last : String} (nonempty : last.toList ≠ [])
    (rest : List Char) : Gives (shortable stem last) (stem.toList ++ last.toList) rest :=
  gives_seq (gives_literal _ _) (gives_optional (gives_literal _ _) nonempty)

theorem gives_equalityLink {link : String} (isLink : link ∈ equalityLinks) (rest : List Char) :
    Gives (choice [text "is", shortable "equal" "s", text "=", text "=="]) link.toList rest := by
  simp only [equalityLinks, List.mem_cons, List.not_mem_nil, or_false] at isLink
  rcases isLink with rfl | rfl | rfl | rfl | rfl
  · exact gives_choice (p := text "is") (by simp) (gives_literal _ rest)
  · exact gives_choice (p := shortable "equal" "s") (by simp) (gives_shortable_stem _ _ rest)
  · exact gives_choice (p := shortable "equal" "s") (by simp)
      (gives_shortable_full "equal" (by decide) rest)
  · exact gives_choice (p := text "=") (by simp) (gives_literal _ rest)
  · exact gives_choice (p := text "==") (by simp) (gives_literal _ rest)

theorem gives_containmentLink {link : String} (isLink : link ∈ containmentLinks)
    (rest : List Char) :
    Gives (choice [shortable "contain" "s", text "like", text "has", shortable "include" "s"])
      link.toList rest := by
  simp only [containmentLinks, List.mem_cons, List.not_mem_nil, or_false] at isLink
  rcases isLink with rfl | rfl | rfl | rfl | rfl | rfl
  · exact gives_choice (p := shortable "contain" "s") (by simp) (gives_shortable_stem _ _ rest)
  · exact gives_choice (p := shortable "contain" "s") (by simp)
      (gives_shortable_full "contain" (by decide) rest)
  · exact gives_choice (p := text "like") (by simp) (gives_literal _ rest)
  · exact gives_choice (p := text "has") (by simp) (gives_literal _ rest)
  · exact gives_choice (p := shortable "include" "s") (by simp) (gives_shortable_stem _ _ rest)
  · exact gives_choice (p := shortable "include" "s") (by simp)
      (gives_shortable_full "include" (by decide) rest)

/-- What a phrase ends in front of is a blank or a sign, which it takes with it, or nothing. -/
theorem exists_gives_phraseEnd {s : List Char} (ends : EndsPhrase s) :
    ∃ piece rest, s = piece ++ rest ∧
      Gives (choice [blank, .edge .textEnd, text ",", text "."]) piece rest := by
  cases s with
  | nil => exact ⟨[], [], rfl, gives_choice (p := .edge .textEnd) (by simp) gives_textEnd⟩
  | cons c rest =>
    refine ⟨[c], rest, rfl, ?_⟩
    rcases ends c rfl with isBlank | rfl | rfl
    · refine gives_choice (p := blank) (by simp) fun before ps => ⟨ps, ?_⟩
      simp [blank, ways, isBlank]
    · exact gives_choice (p := text ",") (by simp) (gives_literal [','] rest)
    · exact gives_choice (p := text ".") (by simp) (gives_literal ['.'] rest)

theorem exists_gives_phrase {s : List Char} (begins : BeginsPhrase s) :
    ∃ piece rest, s = piece ++ rest ∧ Gives phrase piece rest := by
  cases begins with
  | @intro opening said closing ending isOpening nonempty isSaid isClosing ends =>
    obtain ⟨last, rest, rfl, atEnd⟩ := exists_gives_phraseEnd ends
    have held : ∀ c ∈ said, (CharSet.union .word .blank).contains c = true := by
      simpa using isSaid
    refine ⟨opening ++ (said ++ (closing ++ last)), rest, by simp, ?_⟩
    exact gives_seq (gives_quote isOpening _) (gives_seq
      (gives_group 1 (gives_rep_one false (List.length_pos_iff.2 nonempty) held _))
      (gives_seq (gives_quote isClosing _) atEnd))

section

variable {names : List (List Char)} {name : List Char} (isName : name ∈ names)

include isName

theorem isSome_find?_linked {link : Pattern} {before gap gap' piece s : List Char}
    (isGap : IsGap gap) (atLink : ∀ rest, Gives link piece rest) (isGap' : IsGap gap')
    {last : Pattern} (atLast : ∃ taken rest, s = taken ++ rest ∧ Gives last taken rest) :
    (find? (.seq (choice (names.map literal)) (.seq blanks1 (.seq link (.seq blanks1 last))))
      (before ++ (name ++ (gap ++ (piece ++ (gap' ++ s)))))).isSome = true := by
  obtain ⟨taken, rest, rfl, gives⟩ := atLast
  have whole := isSome_find?_of_gives (gives_seq (gives_names isName _) (gives_seq
    (gives_gap isGap _) (gives_seq (atLink _) (gives_seq (gives_gap isGap' _) gives)))) before
  simpa using whole

/-- Where a clause that captures a text stands around a name, a rule finds one. -/
theorem exists_rule_of_hasTextClause {before after : List Char}
    (clause : HasTextClause before after) :
    ∃ rule ∈ columnRules, rule.capture = .text ∧
      (find? (rule.pattern (choice (names.map literal)))
        (before ++ (name ++ after))).isSome = true := by
  cases clause with
  | @linked _ gap gap' phrase link isGap isLink isGap' begins =>
    obtain ⟨piece, rest, cut, gives⟩ := exists_gives_phrase begins
    rw [phraseLinks, List.mem_append, List.mem_append] at isLink
    rcases isLink with (naming | equality) | containment
    · refine ⟨_, List.mem_cons_self, rfl, isSome_find?_linked isName isGap
        (fun rest => gives_oneOf naming rest) isGap' ⟨[] ++ piece, rest, cut, ?_⟩⟩
      exact gives_seq (gives_optional_stay _ _) gives
    · exact ⟨_, List.mem_cons_of_mem _ List.mem_cons_self, rfl, isSome_find?_linked isName isGap
        (gives_equalityLink equality) isGap' ⟨piece, rest, cut, gives⟩⟩
    · exact ⟨_, List.mem_cons_of_mem _ (List.mem_cons_of_mem _ List.mem_cons_self), rfl,
        isSome_find?_linked isName isGap (gives_containmentLink containment) isGap'
          ⟨piece, rest, cut, gives⟩⟩
  | @searched before gap gap' phrase verb isVerb isGap isGap' begins =>
    obtain ⟨piece, rest, rfl, gives⟩ := exists_gives_phrase begins
    have whole := isSome_find?_of_gives (gives_seq (gives_oneOf isVerb _) (gives_seq
      (gives_gap isGap _) (gives_seq (gives_names isName _) (gives_seq (gives_gap isGap' _)
        gives)))) before
    refine ⟨columnRules[3], List.getElem_mem _, rfl, ?_⟩
    simp only [List.append_assoc] at whole ⊢
    exact whole
  | @equated before blanks blanks' opening rest sign c isBlanks isSign isBlanks' isOpening isWord =>
    have atWord : Gives (.group 1 (many1 (.one .word))) [c] rest :=
      gives_group 1 (gives_rep_one true (Nat.le_refl 1) (by simpa using isWord) rest)
    have noWhere := gives_optional_stay (.seq (text "where") blanks1)
    have whole := isSome_find?_of_gives (gives_seq (noWhere _) (gives_seq (gives_names isName _)
      (gives_seq (gives_blanks isBlanks _) (gives_seq (gives_oneOf isSign _) (gives_seq
        (gives_blanks isBlanks' _) (gives_seq (gives_quote isOpening _)
          (gives_seq atWord (gives_quote (.inl rfl) rest)))))))) before
    refine ⟨columnRules[4], List.getElem_mem _, rfl, ?_⟩
    simp only [List.append_assoc, List.nil_append] at whole ⊢
    exact whole

theorem exists_relation_of_beginsComparison {after : List Char}
    (compares : BeginsComparison after) (before : List Char) :
    ∃ relation : Relation, (find? (relation.rule.pattern (choice (names.map literal)))
      (before ++ (name ++ after))).isSome = true := by
  cases compares with
  | @intro relation blanks blanks' rest saying d isBlanks isSaying isBlanks' digit =>
    have atDigit : Gives numeral ([d] ++ []) rest := gives_group 1 (gives_seq
      (gives_rep_one true (Nat.le_refl 1) (by simpa using digit) _) (gives_optional_stay _ rest))
    have whole := isSome_find?_of_gives (gives_seq (gives_names isName _) (gives_seq
      (gives_blanks isBlanks _) (gives_seq (gives_oneOf isSaying _) (gives_seq
        (gives_blanks isBlanks' _) atDigit)))) before
    refine ⟨relation, ?_⟩
    simp only [List.append_assoc, List.cons_append, List.nil_append] at whole ⊢
    exact whole

end

end TableQuery.Question
