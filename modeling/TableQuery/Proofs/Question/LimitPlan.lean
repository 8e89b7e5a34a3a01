import TableQuery.Proofs.Numeral.Digits
import TableQuery.Proofs.Question.ClauseText
import TableQuery.Proofs.Question.SortText

/-! # The number of rows that a plan asks for

The clause for the number of rows takes up a run of decimal digits of any script, up to its end.
Digits in ASCII are read as the natural that they write, or as the greatest limit where that is
less.  A run with a digit of another script is not read at all, and the greatest limit stands for
it whatever it writes.
-/

namespace TableQuery

/-! ## Digits of all scripts -/

/-- What a decimal digit of any script stands for.  The digits of a script follow each other, from
    zero on, and the ranges of digits are made of whole scripts. -/
def Text.valueOfDigit (c : Char) : Nat :=
  if c.isDigit then Numeral.digitValue c
  else match digitRanges.find? fun range => range.1 ≤ c.toNat && c.toNat ≤ range.2 with
    | some range => (c.toNat - range.1) % 10
    | none => 0

/-- The natural that decimal digits of any script write. -/
def Text.valueOfDigits (ds : List Char) : Nat :=
  ds.foldl (fun n c => 10 * n + valueOfDigit c) 0

theorem Text.valueOfDigits_eq {ds : List Char} (digits : Numeral.AllDigits ds) :
    valueOfDigits ds = Numeral.natOfDigits ds := by
  rw [valueOfDigits, Numeral.natOfDigits]
  refine List.foldl_ext _ _ _ fun n c member => ?_
  rw [valueOfDigit, if_pos (digits c member)]

namespace Question

open Pattern

/-! ## What the clause takes up -/

/-- The words that a number of rows comes behind. -/
def limitWords : List String := ["top", "first", "limit"]

/-- Is the match a word for limits, then blanks or not, then all the digits that stand there? -/
structure TakesDigits (found : Found) (digits : List Char) : Prop where
  remembers : found.pieces.get? 1 = some digits
  nonempty : digits ≠ []
  isDigits : ∀ c ∈ digits, Text.isDecimalDigit c = true
  chars_eq : ∃ word ∈ limitWords, ∃ blanks, (∀ c ∈ blanks, Text.isBlank c = true) ∧
    found.chars = word.toList ++ (blanks ++ digits)
  stops : ∀ c ∈ found.after.head?, Text.isDecimalDigit c = false

theorem takes_limitClause {s rest : List Char} (takes : Takes limitClause s rest) :
    ∃ word ∈ limitWords, ∃ blanks d more, (∀ c ∈ blanks, Text.isBlank c = true) ∧
      Text.isDecimalDigit d = true ∧ s = word.toList ++ (blanks ++ d :: more) := by
  obtain ⟨afterWord, atWord, takes⟩ := takes_sequence_cons takes
  obtain ⟨afterBlanks, atBlanks, atDigits⟩ := takes_sequence_cons takes
  obtain ⟨word, isWord, rfl⟩ := takes_oneOf atWord
  obtain ⟨blanks, isBlanks, rfl⟩ := takes_blanks atBlanks
  obtain ⟨d, digits, held, rfl⟩ := takes_many1_one (takes_group atDigits)
  exact ⟨word, isWord, blanks, d, _, isBlanks, by simpa using held d List.mem_cons_self, rfl⟩

theorem prefers_limitWord {word : String} (isWord : word ∈ limitWords) (before rest : List Char)
    (ps : Pieces) : Prefers (oneOf limitWords) ⟨before, word.toList ++ rest⟩ ps
      (⟨word.toList.reverse ++ before, rest⟩, ps) := by
  simp only [limitWords, List.mem_cons, List.not_mem_nil, or_false] at isWord
  rcases isWord with rfl | rfl | rfl <;> rfl

theorem prefers_limitClause {word : String} (isWord : word ∈ limitWords) {blanks digits : List Char}
    (isBlanks : ∀ c ∈ blanks, Text.isBlank c = true) (nonempty : digits ≠ [])
    (isDigits : ∀ c ∈ digits, Text.isDecimalDigit c = true) {rest : List Char}
    (stops : ∀ c ∈ rest.head?, Text.isDecimalDigit c = false) (before : List Char) :
    ∃ start, Prefers limitClause ⟨before, word.toList ++ (blanks ++ (digits ++ rest))⟩ []
      (⟨digits.reverse ++ (blanks.reverse ++ (word.toList.reverse ++ before)), rest⟩,
        [⟨1, start, digits⟩]) := by
  obtain ⟨d, more, rfl⟩ := List.exists_cons_of_ne_nil nonempty
  have solid := Text.isBlank_of_isDecimalDigit (isDigits d List.mem_cons_self)
  have atWord := prefers_limitWord isWord before (blanks ++ (d :: more ++ rest)) []
  have atBlanks := @prefers_many_one .blank blanks (d :: more ++ rest)
    (by simpa using isBlanks) (by simpa using solid) (word.toList.reverse ++ before) []
  have atDigits := prefers_group (n := 1) (@prefers_many1_one .digit d more rest
    (by simpa using isDigits) (by simpa using stops)
    (blanks.reverse ++ (word.toList.reverse ++ before)) [])
  rw [since_append] at atDigits
  exact ⟨_, prefers_seq atWord (prefers_seq atBlanks atDigits)⟩

theorem exists_takesDigits {s : List Char} {found : Found} (isFound : find? limitClause s = some found) :
    ∃ digits, TakesDigits found digits := by
  obtain ⟨⟨before, after⟩, way, -, isFirst, rfl⟩ := exists_way_of_find? isFound
  obtain ⟨word, isWord, blanks, d, more, isBlanks, digit, rfl⟩ :=
    takes_limitClause (takes_of_prefers isFirst)
  obtain ⟨digits, rest, isRun, isDigits, stops⟩ := Text.exists_run Text.isDecimalDigit (d :: more)
  have nonempty : digits ≠ [] := by
    rintro rfl
    rw [List.nil_append] at isRun
    subst isRun
    rw [stops d rfl] at digit
    cases digit
  obtain ⟨start, prefers⟩ := prefers_limitClause isWord isBlanks nonempty isDigits stops before
  rw [isRun] at isFirst ⊢
  obtain rfl := Option.some.inj (isFirst.symm.trans prefers)
  refine ⟨digits, rfl, nonempty, isDigits, ⟨word, isWord, blanks, isBlanks, ?_⟩, stops⟩
  have since := since_append (word.toList ++ (blanks ++ digits)) before rest
    (word.toList ++ (blanks ++ (digits ++ rest)))
  simpa [Found.ofWay] using since

/-! ## Plans -/

theorem limitOf_of_allDigits {digits : List Char} (allDigits : Numeral.AllDigits digits) :
    limitOf digits = min (Text.valueOfDigits digits) greatestLimit := by
  rw [limitOf, if_pos (List.all_eq_true.2 allDigits), Text.valueOfDigits_eq allDigits]

theorem limitOf_of_not_allDigits {digits : List Char} (notAll : ¬ Numeral.AllDigits digits) :
    limitOf digits = greatestLimit :=
  if_neg fun all => notAll (List.all_eq_true.1 all)

theorem limitOf_eq_min_iff {digits : List Char} :
    limitOf digits = min (Text.valueOfDigits digits) greatestLimit ↔
      Numeral.AllDigits digits ∨ greatestLimit ≤ Text.valueOfDigits digits := by
  by_cases allDigits : Numeral.AllDigits digits
  · exact iff_of_true (limitOf_of_allDigits allDigits) (.inl allDigits)
  · rw [limitOf_of_not_allDigits allDigits, eq_comm, min_eq_right_iff]
    exact (or_iff_right allDigits).symm

/-- Where the clause for the number of rows is found, the plan has a limit.  It is the number that
    the digits of the clause write, or the greatest limit where that is less, just if the digits
    are in ASCII or the number is too great anyway; in every other case it is the greatest limit. -/
theorem plan_limit_of_find? (schema : Schema) {query : String} {found : Found}
    (isFound : find? limitClause (Text.lower query.toList) = some found) :
    ∃ digits limit, TakesDigits found digits ∧ (plan schema query).limit = some limit ∧
      (Numeral.AllDigits digits → limit = min (Text.valueOfDigits digits) greatestLimit) ∧
      (¬ Numeral.AllDigits digits → limit = greatestLimit) ∧
      (limit = min (Text.valueOfDigits digits) greatestLimit ↔
        Numeral.AllDigits digits ∨ greatestLimit ≤ Text.valueOfDigits digits) := by
  obtain ⟨digits, takes⟩ := exists_takesDigits isFound
  refine ⟨digits, limitOf digits, takes, ?_, limitOf_of_allDigits, limitOf_of_not_allDigits,
    limitOf_eq_min_iff⟩
  rw [plan, limitOf?, isFound]
  simp only [Option.map_some, takes.remembers, Option.getD_some]

theorem plan_limit_of_find?_top_seven :
    let found : Found := ⟨0, "top  007".toList, " of 12".toList, [⟨1, 5, ['0', '0', '7']⟩]⟩
    find? limitClause (Text.lower "Top  007 of 12".toList) = some found ∧
      TakesDigits found ['0', '0', '7'] ∧ (plan ⟨[], 0, []⟩ "Top  007 of 12").limit = some 7 := by
  intro found
  have isFound : find? limitClause (Text.lower "Top  007 of 12".toList) = some found := rfl
  obtain ⟨digits, limit, takes, isLimit, isRead, -, -⟩ := plan_limit_of_find? ⟨[], 0, []⟩ isFound
  obtain rfl : ['0', '0', '7'] = digits := Option.some.inj takes.remembers
  have isSeven : limit = 7 := isRead (by unfold Numeral.AllDigits; decide)
  exact ⟨isFound, takes, isSeven ▸ isLimit⟩

/-- Three rows are asked for in Arabic digits, and all rows are shown. -/
theorem limit_plan_arabic_three :
    Text.valueOfDigits ['٣'] = 3 ∧
      (find? limitClause (Text.lower "top ٣".toList)).bind (·.pieces.get? 1) = some ['٣'] ∧
      (plan ⟨[], 0, []⟩ "top ٣").limit = some greatestLimit := by
  refine ⟨by decide +kernel, by decide +kernel, by decide +kernel⟩

end Question

end TableQuery
