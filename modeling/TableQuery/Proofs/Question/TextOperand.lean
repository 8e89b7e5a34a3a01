import TableQuery.Proofs.Pattern.Chosen
import TableQuery.Proofs.Question.Origin
import TableQuery.Proofs.Question.WordPhrase
import TableQuery.Proofs.Text.Words

/-! # The texts that conditions look for

A phrase ends at the first blank behind its first character, so what it remembers is a word, or a
blank and a word, or a blank only.  Trimming leaves the word.  Where nothing but blanks is said, the
blanks in front of the phrase leave the last of them to it, and the condition looks for the empty
text.  Places, states and words that are looked for are never empty.
-/

namespace TableQuery.Question

open Pattern

/-! ## What a phrase remembers -/

/-- Is nothing there, or a sign that ends a phrase? -/
def IsStop (s : List Char) : Prop :=
  s = [] ∨ ∃ c, s = [c] ∧ (Text.isBlank c = true ∨ c = ',' ∨ c = '.')

/-- Does a phrase that remembers this piece read so? -/
inductive SaysPhrase (piece : List Char) : List Char → Prop where
  | intro {opening closing stop : List Char} (isOpening : IsQuote opening)
      (isClosing : IsQuote closing) (isStop : IsStop stop) :
      SaysPhrase piece (opening ++ (piece ++ (closing ++ stop)))

/-- Is this a word or a blank, with a word behind it or not? -/
inductive IsBlankWord : List Char → Prop where
  | intro {c : Char} {word : List Char} (isFirst : Text.isWordChar c = true ∨ Text.isBlank c = true)
      (isWord : ∀ d ∈ word, Text.isWordChar d = true) : IsBlankWord (c :: word)

namespace IsBlankWord

variable {piece : List Char} (blankWord : IsBlankWord piece)

include blankWord

theorem solid_trim : ∀ c ∈ Text.trim piece, Text.isBlank c = false := by
  obtain @⟨c, word, isFirst, isWord⟩ := blankWord
  have solid : ∀ d ∈ word, Text.isBlank d = false :=
    fun d member => Text.isBlank_of_isWordChar (isWord d member)
  cases isFirst with
  | inl isChar =>
    have solidAll : ∀ d ∈ c :: word, Text.isBlank d = false := by
      simpa using ⟨Text.isBlank_of_isWordChar isChar, solid⟩
    rwa [Text.trim_eq_self_of_solid solidAll]
  | inr blank => rwa [Text.trim_cons_of_isBlank blank, Text.trim_eq_self_of_solid solid]

theorem trim_eq_nil_iff : Text.trim piece = [] ↔ ∃ b, Text.isBlank b = true ∧ piece = [b] := by
  constructor
  · intro isNil
    have blanks := Text.trim_eq_nil_iff.1 isNil
    obtain @⟨c, word, -, isWord⟩ := blankWord
    cases word with
    | nil => exact ⟨c, blanks c List.mem_cons_self, rfl⟩
    | cons d word =>
      have solid := Text.isBlank_of_isWordChar (isWord d List.mem_cons_self)
      rw [blanks d (List.mem_cons_of_mem _ List.mem_cons_self)] at solid
      cases solid
  · rintro ⟨b, blank, rfl⟩
    rw [Text.trim_cons_of_isBlank blank]
    rfl

end IsBlankWord

theorem exists_stop_of_takes {s rest : List Char}
    (takes : Takes (choice [blank, .edge .textEnd, text ",", text "."]) s rest) :
    ∃ stop, IsStop stop ∧ s = stop ++ rest := by
  obtain ⟨p, member, taken⟩ := takes_choice takes
  simp only [List.mem_cons, List.not_mem_nil, or_false] at member
  rcases member with rfl | rfl | rfl | rfl
  · obtain ⟨c, held, rfl⟩ := takes_one taken
    exact ⟨[c], .inr ⟨c, rfl, .inl (by simpa using held)⟩, rfl⟩
  · obtain ⟨piece, cut⟩ := exists_piece_of_takes taken
    rw [takes_textEnd taken, List.nil_eq, List.append_eq_nil_iff] at cut
    exact ⟨[], .inl rfl, by rw [takes_textEnd taken, cut.2]; rfl⟩
  · exact ⟨[','], .inr ⟨_, rfl, .inr (.inl rfl)⟩, takes_literal taken⟩
  · exact ⟨['.'], .inr ⟨_, rfl, .inr (.inr rfl)⟩, takes_literal taken⟩

theorem exists_end_of_takes {s rest : List Char} (takes : Takes phraseEnd s rest) :
    ∃ closing stop, IsQuote closing ∧ IsStop stop ∧ s = closing ++ stop ++ rest := by
  obtain ⟨mid, closes, ends⟩ := takes_seq takes
  obtain ⟨closing, isClosing, rfl⟩ := exists_quote_of_takes closes
  obtain ⟨stop, isStop, rfl⟩ := exists_stop_of_takes ends
  exact ⟨closing, stop, isClosing, isStop, by rw [List.append_assoc]⟩

theorem ways_phraseEnd_ne_nil {b : Char} (isBlank : Text.isBlank b = true) (rest before : List Char)
    (ps : Pieces) : ways phraseEnd ⟨before, b :: rest⟩ ps ≠ [] := by
  have ends : Gives (choice [blank, .edge .textEnd, text ",", text "."]) [b] rest := by
    refine gives_choice List.mem_cons_self fun before ps => ⟨ps, ?_⟩
    simp [blank, ways, isBlank]
  obtain ⟨after, member⟩ := gives_seq (gives_optional_stay _ _) ends before ps
  exact List.ne_nil_of_mem member

theorem exists_of_prefers_phrase {place : Place} {ps : Pieces} {way : Way}
    (prefers : Prefers phrase place ps way) :
    ∃ piece said, IsBlankWord piece ∧ way.2.get? 1 = some piece ∧ SaysPhrase piece said ∧
      place.Leads said way.1 := by
  obtain ⟨⟨⟨before, after⟩, ps'⟩, atOpening, prefers⟩ := exists_prefers_of_seq prefers
  obtain ⟨c, word, tail, rfl, held, never, atEnd⟩ := exists_of_prefers_few1_group prefers
  have isEnd : way ∈ ways phraseEnd _ _ := List.mem_of_mem_head? atEnd
  obtain ⟨opening, leadsOpening⟩ := leads_of_mem_ways _ _ _ _ atOpening
  obtain ⟨ending, leadsEnding⟩ := leads_of_mem_ways _ _ _ _ isEnd
  have isOpening : IsQuote opening := by
    obtain ⟨q, isQuote, cut⟩ := exists_quote_of_takes ⟨_, _, _, atOpening, rfl⟩
    rwa [List.append_cancel_right (leadsOpening.2.symm.trans cut)]
  obtain ⟨closing, stop, isClosing, isStop, cut⟩ := exists_end_of_takes ⟨_, _, _, isEnd, rfl⟩
  obtain rfl : ending = closing ++ stop :=
    List.append_cancel_right (leadsEnding.2.symm.trans cut)
  -- A blank behind the first character would have ended the phrase.
  have isWord : ∀ d ∈ word, Text.isWordChar d = true := by
    intro d member
    obtain ⟨left, right, split⟩ := List.append_of_mem member
    obtain ⟨before, ps, noEnd⟩ := never left d right split
    have isChar : Text.isWordChar d = true ∨ Text.isBlank d = true := by
      simpa using held d (List.mem_cons_of_mem _ member)
    exact isChar.resolve_right fun isBlank => ways_phraseEnd_ne_nil isBlank _ _ _ noEnd
  have isPiece : way.2.get? 1 = some (c :: word) := by
    rw [pieces_eq_of_mem_ways rfl way isEnd]
    rfl
  refine ⟨c :: word, _, .intro (by simpa using held c List.mem_cons_self) isWord, isPiece,
    .intro isOpening isClosing isStop, leadsOpening.trans (.trans ⟨rfl, rfl⟩ leadsEnding)⟩

/-! ## Clauses in front of phrases -/

/-- Does all that the pattern takes end with a blank? -/
def EndsInBlank (p : Pattern) : Prop :=
  ∀ s rest, Takes p s rest → ∃ start g, Text.isBlank g = true ∧ s = start ++ g :: rest

theorem endsInBlank_blanks1 : EndsInBlank (sequence [blanks1]) := by
  intro s rest takes
  obtain ⟨gap, ⟨nonempty, isBlanks⟩, rfl⟩ := takes_gap takes
  refine ⟨gap.dropLast, gap.getLast nonempty, isBlanks _ (List.getLast_mem nonempty), ?_⟩
  rw [List.append_cons, List.dropLast_append_getLast]

theorem EndsInBlank.cons {parts : List Pattern} (ends : EndsInBlank (sequence parts)) (p : Pattern) :
    EndsInBlank (sequence (p :: parts)) := by
  intro s rest takes
  obtain ⟨mid, atFirst, atOthers⟩ := takes_sequence_cons takes
  obtain ⟨piece, rfl⟩ := exists_piece_of_takes atFirst
  obtain ⟨start, g, isBlank, rfl⟩ := ends _ _ atOthers
  exact ⟨piece ++ start, g, isBlank, by rw [List.append_assoc]⟩

theorem endsInBlank_again :
    EndsInBlank (sequence [blanks1, optional (.seq (text "as") blanks1)]) := by
  intro s rest takes
  obtain ⟨mid, gap, again⟩ := takes_sequence_cons takes
  rcases takes_optional again with rfl | atAs
  · exact endsInBlank_blanks1 _ _ gap
  · obtain ⟨piece, rfl⟩ := exists_piece_of_takes gap
    obtain ⟨start, g, isBlank, rfl⟩ := endsInBlank_blanks1.cons (text "as") _ _ atAs
    exact ⟨piece ++ start, g, isBlank, by rw [List.append_assoc]⟩

/-- Does the clause end with a phrase of one blank, and another blank in front of it? -/
inductive TakesBlank (found : Found) : Prop where
  | intro {start said : List Char} {g b : Char} (remembers : found.pieces.get? 1 = some [b])
      (isBlank : Text.isBlank b = true) (isGap : Text.isBlank g = true)
      (isSaid : SaysPhrase [b] said) (chars_eq : found.chars = start ++ g :: said) :
      TakesBlank found

/-- What a condition looks for if this is its clause. -/
def operandOf (found : Found) : List Char := Text.trim ((found.pieces.get? 1).getD [])

/-- Does the condition of the clause look for a word, or for nothing if the clause says nothing? -/
structure LooksForWord (found : Found) : Prop where
  solid : ∀ c ∈ operandOf found, Text.isBlank c = false
  eq_nil_iff : operandOf found = [] ↔ TakesBlank found

theorem looksForWord_of_phrase {lead : List Pattern} (ends : EndsInBlank (sequence lead))
    {s : List Char} {found : Found} (isFound : find? (sequence (lead ++ [phrase])) s = some found) :
    LooksForWord found := by
  obtain ⟨place, way, -, isFirst, rfl⟩ := exists_way_of_find? isFound
  obtain ⟨mid, atLead, atPhrase⟩ := exists_prefers_of_sequence_concat isFirst
  obtain ⟨piece, said, isBlankWord, isPiece, isSaid, leadsPhrase⟩ :=
    exists_of_prefers_phrase atPhrase
  obtain ⟨taken, leadsLead⟩ := leads_of_mem_ways _ _ _ mid atLead
  obtain ⟨start, g, isGap, cut⟩ := ends _ _ ⟨place.before, _, mid, atLead, rfl⟩
  have isTaken : taken = start ++ [g] := by
    rw [leadsLead.2, List.append_cons] at cut
    exact List.append_cancel_right cut
  have isChars : (Found.ofWay place way).chars = start ++ g :: said := by
    obtain ⟨isBefore, isAfter⟩ := leadsLead.trans leadsPhrase
    have since := since_append (taken ++ said) place.before way.1.after place.after
    rw [← isBefore, isTaken, ← List.append_cons] at since
    exact since
  have isOperand : operandOf (Found.ofWay place way) = Text.trim piece := by
    rw [operandOf, Found.ofWay, isPiece, Option.getD_some]
  constructor
  case solid =>
    rw [isOperand]
    exact isBlankWord.solid_trim
  case eq_nil_iff =>
    rw [isOperand, isBlankWord.trim_eq_nil_iff]
    constructor
    · rintro ⟨b, isBlank, rfl⟩
      exact .intro isPiece isBlank isGap isSaid isChars
    · rintro ⟨remembers, isBlank, -, -, -⟩
      exact ⟨_, isBlank, Option.some.inj (isPiece.symm.trans remembers)⟩

theorem looksForWord_of_word {lead : List Pattern} {s : List Char} {found : Found}
    (isFound : find? (sequence (lead ++ [.seq (.group 1 (many1 (.one .word))) quote])) s =
      some found) : LooksForWord found := by
  obtain ⟨place, way, -, isFirst, rfl⟩ := exists_way_of_find? isFound
  obtain ⟨mid, -, atWord⟩ := exists_prefers_of_sequence_concat isFirst
  obtain ⟨closed, isWord, atQuote⟩ := exists_prefers_of_seq atWord
  have isPieces := pieces_eq_of_mem_ways (p := quote) rfl way (List.mem_of_mem_head? atQuote)
  obtain ⟨piece, isPiece, isAfter⟩ := get?_of_mem_ways_group isWord
  obtain ⟨c, word, held, cut⟩ := takes_many1_one (takes_group ⟨_, _, closed, isWord, rfl⟩)
  obtain rfl : piece = c :: word := List.append_cancel_right (isAfter.symm.trans cut)
  have solid : ∀ d ∈ c :: word, Text.isBlank d = false :=
    fun d member => Text.isBlank_of_isWordChar (by simpa using held d member)
  have isOperand : operandOf (Found.ofWay place way) = c :: word := by
    rw [operandOf, Found.ofWay, isPieces, isPiece, Option.getD_some,
      Text.trim_eq_self_of_solid solid]
  constructor
  case solid =>
    rw [isOperand]
    exact solid
  case eq_nil_iff =>
    rw [isOperand]
    refine iff_of_false (List.cons_ne_nil _ _) ?_
    rintro ⟨remembers, isBlank, -, -, -⟩
    rw [Found.ofWay, isPieces, isPiece] at remembers
    rw [solid _ (Option.some.inj remembers ▸ List.mem_cons_self)] at isBlank
    cases isBlank

theorem looksForWord_of_textRule {names : Pattern} {s : List Char} {found : Found}
    {rule : ColumnRule} (inRules : rule ∈ textRules)
    (isFound : find? (rule.pattern names) s = some found) : LooksForWord found := by
  have linked (link : Pattern) : EndsInBlank (sequence [names, blanks1, link, blanks1]) :=
    ((endsInBlank_blanks1.cons _).cons _).cons _
  simp only [textRules, columnRules, List.take_succ_cons, List.take_zero, List.mem_cons,
    List.not_mem_nil, or_false] at inRules
  rcases inRules with rfl | rfl | rfl | rfl | rfl
  · have again (link : Pattern) : EndsInBlank (sequence
        [names, blanks1, link, blanks1, optional (.seq (text "as") blanks1)]) :=
      ((endsInBlank_again.cons _).cons _).cons _
    exact looksForWord_of_phrase (again _) isFound
  · exact looksForWord_of_phrase (linked _) isFound
  · exact looksForWord_of_phrase (linked _) isFound
  · have searched (verb : Pattern) : EndsInBlank (sequence [verb, blanks1, names, blanks1]) :=
      ((endsInBlank_blanks1.cons _).cons _).cons _
    exact looksForWord_of_phrase (searched _) isFound
  · exact @looksForWord_of_word [optional (.seq (text "where") blanks1), names, blanks,
      oneOf ["=", "=="], blanks, quote] s found isFound

/-! ## The clause of a column -/

/-- The clause of a text that gives a column its condition, if there is one. -/
def clauseOf? (s : List Char) (column : Column) : Option Found :=
  match namePattern? column with
  | none => none
  | some names => columnRules.findSome? fun rule =>
    if (ruleCondition? column names s rule).isSome then find? (rule.pattern names) s else none

section

variable {s : List Char} {column : Column}

theorem exists_clause {e : Explained} (isSome : columnCondition? s column = some e) :
    ∃ names, ∃ rule ∈ columnRules, ∃ found, find? (rule.pattern names) s = some found ∧
      ruleCondition? column names s rule = some e ∧ clauseOf? s column = some found := by
  rw [columnCondition?] at isSome
  rw [clauseOf?]
  cases isNames : namePattern? column with
  | none =>
    rw [isNames] at isSome
    cases isSome
  | some names =>
    rw [isNames] at isSome
    dsimp only at isSome ⊢
    obtain ⟨done, rule, todo, split, isRule, noneBefore⟩ := List.findSome?_eq_some_iff.1 isSome
    obtain ⟨found, isFound⟩ : ∃ found, find? (rule.pattern names) s = some found := by
      rw [ruleCondition?] at isRule
      split at isRule
      · cases isRule
      · next found isFound => exact ⟨found, isFound⟩
    refine ⟨names, rule, ?_, found, isFound, isRule, ?_⟩
    · rw [split]
      exact List.mem_append_right _ List.mem_cons_self
    · refine List.findSome?_eq_some_iff.2 ⟨done, rule, todo, split, ?_, fun earlier member => ?_⟩
      · rw [isRule, isFound]
        rfl
      · rw [noneBefore earlier member]
        rfl

theorem clauseOf?_eq_none (isNone : columnCondition? s column = none) :
    clauseOf? s column = none := by
  rw [columnCondition?] at isNone
  rw [clauseOf?]
  cases isNames : namePattern? column with
  | none => rfl
  | some names =>
    rw [isNames] at isNone
    dsimp only at isNone ⊢
    rw [List.findSome?_eq_none_iff] at isNone ⊢
    intro rule member
    rw [isNone rule member]
    rfl

/-- Does the condition look in the column for this text, and is there no blank in it? -/
structure LooksFor (c : Condition) (column : Column) (operand : List Char) : Prop where
  column_eq : c.column = column.key
  value_eq : c.value = .scalar (.text (String.ofList operand))
  solid : ∀ d ∈ operand, Text.isBlank d = false

/-- A text condition of a column looks for the word that its clause says. -/
theorem looksFor_of_columnCondition? {e : Explained} (isSome : columnCondition? s column = some e)
    (isText : e.condition.operator = .equals ∨ e.condition.operator = .contains) :
    ∃ found, clauseOf? s column = some found ∧ LooksFor e.condition column (operandOf found) ∧
      (operandOf found = [] ↔ TakesBlank found) := by
  obtain ⟨names, rule, inRules, found, isFound, isRule, isClause⟩ := exists_clause isSome
  rw [ruleCondition?, isFound] at isRule
  obtain ⟨value, isValue, rfl⟩ := Option.map_eq_some_iff.1 isRule
  rw [columnRules_eq, List.mem_append, List.mem_map] at inRules
  rcases inRules with inTextRules | ⟨relation, -, rfl⟩
  · have looks := looksForWord_of_textRule inTextRules isFound
    rw [(capture_of_mem_textRules inTextRules).1] at isValue
    cases isValue
    exact ⟨found, isClause, ⟨rfl, rfl, looks.solid⟩, looks.eq_nil_iff⟩
  · cases relation <;> rcases isText with isEquals | isContains <;> contradiction

end

/-! ## Places, states and words that are looked for -/

section

variable {schema : Schema} {s remaining : List Char}

theorem isBlank_of_placeLetter {c : Char} (letter : placeLetter.contains c = true) :
    Text.isBlank c = false :=
  @Text.isBlank_eq_false_of_test placeLetter.contains (by decide +kernel) _ letter

theorem exists_looksFor_of_place {e : Explained} (isSome : placeCondition? schema s = some e) :
    ∃ column ∈ schema.columns, ∃ operand, LooksFor e.condition column operand ∧ operand ≠ [] := by
  rw [placeCondition?] at isSome
  split at isSome
  case h_1 found column isFound isColumn =>
    cases isSome
    obtain ⟨place, way, -, isFirst, rfl⟩ := exists_way_of_find? isFound
    obtain ⟨afterWord, -, member⟩ := mem_ways_seq (List.mem_of_mem_head? isFirst)
    obtain ⟨afterGap, -, member⟩ := mem_ways_seq member
    obtain ⟨piece, isPiece, isAfter⟩ := get?_of_mem_ways_group member
    obtain ⟨c, letters, held, cut⟩ := takes_many1_one (takes_group ⟨_, _, way, member, rfl⟩)
    obtain rfl : piece = c :: letters := List.append_cancel_right (isAfter.symm.trans cut)
    have solid : ∀ d ∈ c :: letters, Text.isBlank d = false :=
      fun d inPiece => isBlank_of_placeLetter (held d inPiece)
    refine ⟨column, (mem_of_columnWithKey? isColumn).1, c :: letters, ⟨rfl, ?_, solid⟩,
      List.cons_ne_nil _ _⟩
    simp only [Found.ofWay, isPiece, Option.getD_some, Text.trim_eq_self_of_solid solid]
  case h_2 => cases isSome

theorem exists_looksFor_of_status {e : Explained} (isSome : statusCondition? schema s = some e) :
    ∃ column ∈ schema.columns, ∃ operand, LooksFor e.condition column operand ∧ operand ≠ [] := by
  have isWord : ∀ word ∈ statusWords, word.toList ≠ [] ∧
      ∀ d ∈ word.toList, Text.isBlank d = false := by decide
  rw [statusCondition?] at isSome
  split at isSome
  case h_1 word column isFound isColumn =>
    cases isSome
    obtain ⟨nonempty, solid⟩ := isWord word (List.mem_of_find?_eq_some isFound)
    exact ⟨column, (mem_of_columnWithKey? isColumn).1, word.toList,
      ⟨rfl, by rw [String.ofList_toList], solid⟩, nonempty⟩
  case h_2 => cases isSome

theorem exists_looksFor_of_search {c : Condition}
    (member : c ∈ (searchSource schema remaining).conditions) :
    ∃ column ∈ schema.columns, ∃ operand, LooksFor c column operand ∧ operand ≠ [] := by
  rw [searchSource] at member
  split at member
  case h_1 term first rest isTerm isColumns =>
    obtain ⟨column, inColumns, rfl⟩ := List.mem_map.1 member
    rw [← isColumns] at inColumns
    have inWords := List.mem_filter.1 (List.mem_of_mem_getLast? isTerm)
    refine ⟨column, (List.mem_filter.1 inColumns).1, term,
      ⟨rfl, rfl, Text.solid_of_mem_words inWords.1⟩, ?_⟩
    rintro rfl
    simpa using inWords.2
  case h_2 => cases member

/-- Conditions come from clauses, or they look for something and there is no clause. -/
theorem mem_conditions_sourceOf {spans : List Span} {c : Condition}
    (member : c ∈ (sourceOf schema s spans).conditions) :
    (∃ column ∈ schema.columns, ∃ e, columnCondition? s column = some e ∧ c = e.condition) ∨
      ∃ column ∈ schema.columns, columnCondition? s column = none ∧
        ∃ operand, LooksFor c column operand ∧ operand ≠ [] := by
  rw [sourceOf] at member
  cases isClauses : schema.columns.filterMap (columnCondition? s) with
  | cons e es =>
    rw [isClauses] at member
    obtain ⟨e, inClauses, rfl⟩ := List.mem_map.1 member
    rw [← isClauses] at inClauses
    obtain ⟨column, inColumns, isSome⟩ := List.mem_filterMap.1 inClauses
    exact .inl ⟨column, inColumns, e, isSome, rfl⟩
  | nil =>
    rw [isClauses] at member
    have noClause := List.filterMap_eq_nil_iff.1 isClauses
    obtain ⟨column, inColumns, looks⟩ :
        ∃ column ∈ schema.columns, ∃ operand, LooksFor c column operand ∧ operand ≠ [] := by
      cases isPlace : placeCondition? schema s with
      | some e =>
        rw [isPlace] at member
        rw [List.mem_singleton.1 member]
        exact exists_looksFor_of_place isPlace
      | none =>
        cases isStatus : statusCondition? schema s with
        | some e =>
          rw [isPlace, isStatus] at member
          rw [List.mem_singleton.1 member]
          exact exists_looksFor_of_status isStatus
        | none =>
          rw [isPlace, isStatus] at member
          exact exists_looksFor_of_search member
    exact .inr ⟨column, inColumns, noClause column inColumns, looks⟩

end

/-! ## Plans -/

/-- A text condition looks in a column of the schema for a text without blanks.  This text is empty
    just where the clause of the column ends with a phrase of one blank, and another blank in front
    of it; no place, no state and no word that is looked for is empty. -/
theorem looksFor_of_plan {schema : Schema} {query : String} {f : Filter}
    (isFilter : (plan schema query).filter = some f) {c : Condition} (member : c ∈ f.conditions)
    (isText : c.operator = .equals ∨ c.operator = .contains) :
    ∃ column ∈ schema.columns, ∃ operand, LooksFor c column operand ∧
      (operand = [] ↔
        ∃ found, clauseOf? (Text.lower query.toList) column = some found ∧ TakesBlank found) := by
  rcases filter_plan_cases schema query with ⟨origin, -, isSome⟩ | ⟨-, -, isNone⟩
  · rw [isSome] at isFilter
    cases isFilter
    rcases mem_conditions_sourceOf member with
      ⟨column, inColumns, e, isCondition, rfl⟩ | ⟨column, inColumns, isNone, operand, looks, some⟩
    · obtain ⟨found, isClause, looks, eq_nil_iff⟩ :=
        looksFor_of_columnCondition? isCondition isText
      refine ⟨column, inColumns, _, looks, ?_⟩
      rw [eq_nil_iff, isClause]
      simp
    · refine ⟨column, inColumns, operand, looks, iff_of_false some ?_⟩
      rw [clauseOf?_eq_none isNone]
      simp
  · rw [isNone] at isFilter
    cases isFilter

theorem looksFor_of_plan_rome :
    let city : Column := ⟨"city", .string, "City", []⟩
    let c : Condition := ⟨"city", .equals, .scalar (.text "rome")⟩
    let query := "City is   'Rome'"
    (plan ⟨[city], 0, []⟩ query).filter = some ⟨[c], .all⟩ ∧ c.operator = .equals ∧
      ∃ operand, LooksFor c city operand ∧ (operand = [] ↔
        ∃ found, clauseOf? (Text.lower query.toList) city = some found ∧ TakesBlank found) := by
  have isFilter : (plan ⟨[⟨"city", .string, "City", []⟩], 0, []⟩ "City is   'Rome'").filter =
      some ⟨[⟨"city", .equals, .scalar (.text "rome")⟩], .all⟩ := rfl
  obtain ⟨column, member, operand, looks⟩ :=
    looksFor_of_plan isFilter List.mem_cons_self (.inl rfl)
  rw [List.mem_singleton.1 member] at looks
  exact ⟨isFilter, rfl, operand, looks⟩

/-- Two blanks behind `is` say nothing, and the empty text is looked for. -/
theorem filter_plan_blank_phrase :
    let total : Column := ⟨"total", .number, "Total", []⟩
    (plan ⟨[total], 0, []⟩ "total is  ").filter =
      some ⟨[⟨"total", .equals, .scalar (.text "")⟩], .all⟩ := by
  rfl

end TableQuery.Question
