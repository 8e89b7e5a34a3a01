import TableQuery.Proofs.Question.BoundClauses

/-! # Clauses with a numeral in a query of bounds

A clause with a numeral takes a piece of a query only where a bound on its column with its
sign stands, and the piece that it remembers there is the numeral of the bound.
-/

namespace TableQuery.Question

open Pattern

variable {joiner : List Char} {bounds : List Bound}

namespace Relation

/-- The texts that a clause accepts for the relation: its sign, or some words. -/
def sayings : Relation → List String
  | .above => [">", "greater than", "more than", "above"]
  | .below => ["<", "less than", "below", "under"]
  | .atLeast => [">=", "at least", "minimum"]
  | .atMost => ["<=", "at most", "maximum"]

/-- The clause with a numeral for the relation. -/
def rule (relation : Relation) : ColumnRule := numberRule relation.operator relation.sayings

/-- The relations in the order in which their clauses are tried. -/
def inOrder : List Relation := [.above, .below, .atLeast, .atMost]

theorem mem_inOrder (relation : Relation) : relation ∈ inOrder := by
  cases relation <;> decide

theorem sayings_cases {relation : Relation} {saying : String} (member : saying ∈ relation.sayings) :
    saying.toList = relation.sign ∨
      ∃ stem c, saying.toList = stem ++ [c] ∧ c.isLower = true := by
  have spelled : ∀ saying ∈ relation.sayings, saying.toList = relation.sign ∨
      saying.toList.getLast?.any Char.isLower = true := by
    cases relation <;> decide
  cases spelled saying member with
  | inl sign => exact .inl sign
  | inr endsInLetter =>
    obtain ⟨c, isLast, letter⟩ := (Option.any_eq_true _ _).1 endsInLetter
    obtain ⟨stem, isStem⟩ := List.getLast?_eq_some_iff.1 isLast
    exact .inr ⟨stem, c, isStem, letter⟩

theorem exists_sayings_cons (relation : Relation) :
    ∃ saying more, relation.sayings = saying :: more ∧ saying.toList = relation.sign := by
  cases relation <;> exact ⟨_, _, rfl, rfl⟩

theorem sign_append_cancel {relation relation' : Relation} {s rest : List Char}
    (noEquality : s.head? ≠ some '=')
    (same : relation.sign ++ s = relation'.sign ++ ' ' :: rest) :
    relation = relation' ∧ s = ' ' :: rest := by
  cases relation <;> cases relation' <;> simp_all [sign]

end Relation

theorem columnRules_eq : columnRules = textRules ++ Relation.inOrder.map Relation.rule := rfl

/-! ## Where a clause takes a piece -/

/-- Is this nothing, or a point with digits behind it? -/
def IsFraction (s : List Char) : Prop :=
  s = [] ∨ ∃ digits, s = '.' :: digits ∧ ∀ c ∈ digits, Text.isDecimalDigit c = true

theorem exists_digits_of_takes_numeral {s rest : List Char} (takes : Takes numeral s rest) :
    ∃ d digits fraction, s = (d :: digits ++ fraction) ++ rest ∧
      (∀ c ∈ d :: digits, Text.isDecimalDigit c = true) ∧ IsFraction fraction := by
  obtain ⟨afterDigits, atDigits, atFraction⟩ := takes_seq (takes_group takes)
  obtain ⟨d, digits, held, isCons⟩ := takes_many1_one atDigits
  refine ⟨d, digits, ?_⟩
  rcases takes_optional atFraction with same | withPoint
  · exact ⟨[], by rw [isCons, same]; simp, by simpa using held, .inl rfl⟩
  · obtain ⟨afterPoint, atPoint, atPart⟩ := takes_seq withPoint
    obtain ⟨e, part, heldPart, isPart⟩ := takes_many1_one atPart
    have isPoint : afterDigits = '.' :: afterPoint := takes_literal atPoint
    exact ⟨'.' :: e :: part, by rw [isCons, isPoint, isPart]; simp, by simpa using held,
      .inr ⟨e :: part, rfl, by simpa using heldPart⟩⟩

theorem takes_numeral {s rest : List Char} (takes : Takes numeral s rest) :
    ∃ d more, s = d :: more ∧ Text.isDecimalDigit d = true := by
  obtain ⟨d, digits, fraction, isNumeral, isDigits, -⟩ := exists_digits_of_takes_numeral takes
  exact ⟨d, digits ++ fraction ++ rest, isNumeral, isDigits d List.mem_cons_self⟩

/-- What follows a column that a sign is read behind is the sign of a bound. -/
theorem exists_bound_of_sign {key s rest : List Char} (isJoiner : IsJoiner joiner)
    (writable : Writable bounds) (keyNonempty : key ≠ []) (keyLetters : ∀ c ∈ key, c.isLower = true)
    {before taken : List Char} {relation : Relation}
    (cut : boundQuery joiner bounds = before ++ (key ++ s))
    (isBlanks : ∀ c ∈ taken, Text.isBlank c = true)
    (isSign : s = taken ++ (relation.sign ++ rest)) (noEquality : rest.head? ≠ some '=') :
    ∃ b ∈ bounds, b.relation = relation ∧ key <:+ b.key.toList ∧
      ∃ tail, EndsWord tail ∧
        s = ' ' :: (b.relation.sign ++ ' ' :: (b.numeral ++ tail)) := by
  obtain ⟨left, right, later, -, rfl, at_⟩ := atWord_of_letters writable cut keyNonempty keyLetters
  obtain ⟨c, signRest, signCons, starts⟩ := startsWithSign_sign relation
  rw [signCons] at isSign
  cases right with
  | cons d right =>
    have letter := at_.letters isJoiner writable d (by simp)
    obtain rfl := eq_nil_of_solid isBlanks (Text.isBlank_of_isLower letter) isSign
    simp only [List.cons_append, List.nil_append, List.cons.injEq] at isSign
    exact absurd (isSign.1 ▸ starts) (not_startsSign_of_isLower letter)
  | nil =>
    rw [List.append_nil] at at_
    generalize isWord : left ++ key = word at at_
    cases at_ with
    | @joiner b member tail =>
      have plain := writable.plain b member
      obtain ⟨d, more, isKey⟩ := List.exists_cons_of_ne_nil plain.ne_nil
      have letter := plain.letters d (by simp [isKey])
      rw [isKey] at isSign
      rcases blanks_of_space isBlanks (Text.isBlank_of_isLower letter) isSign with rfl | ⟨rfl, -⟩
      · exact absurd starts (by rintro (same | same) <;> exact absurd same (by decide))
      · exact absurd starts (not_startsSign_of_isLower letter)
    | @key b member tail ends =>
      obtain ⟨d, more, isCons, startsToo⟩ := startsWithSign_sign b.relation
      have spread := isSign
      rw [isCons] at spread
      rcases blanks_of_space isBlanks (isBlank_of_startsSign startsToo) spread with
        rfl | ⟨rfl, same⟩
      · exact absurd starts (by rintro (same | same) <;> exact absurd same (by decide))
      · have signs : relation.sign ++ rest =
            b.relation.sign ++ ' ' :: (b.numeral ++ tail) := by
          rw [signCons, isCons]
          exact congrArg (List.cons c) same
        obtain ⟨isRelation, -⟩ := Relation.sign_append_cancel noEquality signs
        exact ⟨b, member, isRelation.symm, ⟨left, isWord⟩, tail, ends, rfl⟩

/-- A clause with a numeral takes a piece only where a bound with its sign stands. -/
theorem exists_bound_of_takes {key s rest : List Char} (isJoiner : IsJoiner joiner)
    (writable : Writable bounds) (keyNonempty : key ≠ []) (keyLetters : ∀ c ∈ key, c.isLower = true)
    {before : List Char} {relation : Relation} (cut : boundQuery joiner bounds = before ++ s)
    (takes : Takes (relation.rule.pattern (literal key)) s rest) :
    ∃ b ∈ bounds, b.relation = relation ∧ key <:+ b.key.toList ∧
      ∃ tail, EndsWord tail ∧
        s = key ++ ' ' :: (b.relation.sign ++ ' ' :: (b.numeral ++ tail)) := by
  obtain ⟨afterKey, atKey, takes⟩ := takes_sequence_cons takes
  obtain ⟨afterGap, gap, takes⟩ := takes_sequence_cons takes
  obtain ⟨afterSaying, atSaying, takes⟩ := takes_sequence_cons takes
  obtain ⟨afterGap', gap', takes⟩ := takes_sequence_cons takes
  obtain ⟨saying, member, isSaying⟩ := takes_oneOf atSaying
  obtain ⟨taken, isBlanks, spread⟩ := takes_blanks gap
  obtain ⟨others, moreBlanks, spread'⟩ := takes_blanks gap'
  obtain ⟨d, more, isCons, digit⟩ := takes_numeral takes
  rw [isCons] at spread'
  rw [isSaying] at spread
  have isKey := takes_literal atKey
  rw [isKey] at cut
  rcases Relation.sayings_cases member with isSign | ⟨stem, c, isStem, letter⟩
  · rw [isSign] at spread
    have noEquality : afterSaying.head? ≠ some '=' := by
      rw [spread']
      cases others with
      | nil =>
        rintro ⟨⟩
        exact absurd digit (by decide)
      | cons b others =>
        rintro ⟨⟩
        exact absurd (moreBlanks '=' (by simp)) (by decide)
    obtain ⟨b, inBounds, isRelation, suffix, tail, ends, isRest⟩ :=
      exists_bound_of_sign isJoiner writable keyNonempty keyLetters cut isBlanks spread noEquality
    exact ⟨b, inBounds, isRelation, suffix, tail, ends, by rw [isKey, isRest]⟩
  · -- Words for the relation would need a digit where a sign or a letter stands.
    have cut' : boundQuery joiner bounds =
        (before ++ key ++ taken ++ stem) ++ ([c] ++ (others ++ d :: more)) := by
      rw [cut, spread, isStem, spread']
      simp
    have next := next_of_letters isJoiner writable cut' (by simp) (by simpa using letter) moreBlanks
    exact absurd digit (not_isDecimalDigit_of_next next)

/-! ## The piece that is remembered -/

theorem prefers_digits (digits rest : List Char) (nonempty : digits ≠ [])
    (isDigits : ∀ c ∈ digits, c.isDigit = true)
    (stop : ∀ c ∈ rest.head?, Text.isDecimalDigit c = false) (before : List Char) (ps : Pieces) :
    Prefers (many1 (.one .digit)) ⟨before, digits ++ rest⟩ ps
      (⟨digits.reverse ++ before, rest⟩, ps) := by
  obtain ⟨c, digits, rfl⟩ := List.exists_cons_of_ne_nil nonempty
  refine prefers_many1_one c digits rest (fun d member => ?_) (fun d member => ?_) before ps
  · rw [CharSet.contains_digit, Text.isDecimalDigit_of_isDigit (isDigits d member)]
  · rw [CharSet.contains_digit, stop d member]

/-- A text that a bound can be followed by does not go on with its numeral. -/
theorem EndsWord.head {tail : List Char} (ends : EndsWord tail) :
    ∀ c ∈ tail.head?, Text.isDecimalDigit c = false ∧ c ≠ '.' := by
  rcases ends with rfl | ⟨more, rfl⟩
  · simp
  · rintro c ⟨⟩
    decide

theorem prefers_numeral {b : Bound} (wellFormed : b.WellFormed) {tail : List Char}
    (ends : EndsWord tail) (before : List Char) (ps : Pieces) :
    Prefers numeral ⟨before, b.numeral ++ tail⟩ ps
      (⟨b.numeral.reverse ++ before, tail⟩, ⟨1, before.length, b.numeral⟩ :: ps) := by
  have inner : Prefers
      (.seq (many1 (.one .digit)) (optional (.seq (text ".") (many1 (.one .digit)))))
      ⟨before, b.numeral ++ tail⟩ ps (⟨b.numeral.reverse ++ before, tail⟩, ps) := by
    cases isPart : b.part with
    | none =>
      have isNumeral : b.numeral = b.whole := by simp [Bound.numeral, isPart]
      rw [isNumeral]
      refine prefers_seq (prefers_digits b.whole tail wellFormed.whole_ne_nil
        wellFormed.whole_digits (fun c member => (ends.head c member).1) before ps)
        (prefers_optional_stay ?_)
      refine ways_eq_nil_of_not_takes fun rest takes => ?_
      obtain ⟨mid, point, -⟩ := takes_seq takes
      have isPoint : tail = '.' :: mid := takes_literal point
      exact (ends.head '.' (by simp [isPoint])).2 rfl
    | some part =>
      have isNumeral : b.numeral = b.whole ++ '.' :: part := by simp [Bound.numeral, isPart]
      have partNonempty : part ≠ [] := fun isNil => wellFormed.part_ne_nil (isNil ▸ isPart)
      have whole := prefers_digits b.whole ('.' :: (part ++ tail)) wellFormed.whole_ne_nil
        wellFormed.whole_digits (by rintro c ⟨⟩; decide) before ps
      have point := prefers_literal ['.'] (b.whole.reverse ++ before) (part ++ tail) ps
      have fraction := prefers_digits part tail partNonempty (wellFormed.part_digits part isPart)
        (fun c member => (ends.head c member).1) ('.' :: (b.whole.reverse ++ before)) ps
      have shorter : tail.length < ('.' :: (part ++ tail)).length := by
        rw [List.length_cons, List.length_append]
        omega
      have all := prefers_seq whole (prefers_optional (prefers_seq point fraction) shorter)
      have isPoint : text "." = literal ['.'] := rfl
      rw [isNumeral, isPoint]
      simpa using all
  have grouped := prefers_group (n := 1) inner
  rwa [since_append] at grouped

theorem prefers_rule {b : Bound} (wellFormed : b.WellFormed) {tail : List Char}
    (ends : EndsWord tail) (key before : List Char) :
    ∃ place start, Prefers (b.relation.rule.pattern (literal key))
      ⟨before, key ++ ' ' :: (b.relation.sign ++ ' ' :: (b.numeral ++ tail))⟩ []
      (place, [⟨1, start, b.numeral⟩]) := by
  obtain ⟨saying, more, isCons, isSign⟩ := b.relation.exists_sayings_cons
  obtain ⟨c, signRest, signCons, starts⟩ := startsWithSign_sign b.relation
  obtain ⟨d, digits, isWhole⟩ := List.exists_cons_of_ne_nil wellFormed.whole_ne_nil
  have digit := wellFormed.whole_digits d (by simp [isWhole])
  have startsNumeral : ∃ rest, b.numeral = d :: rest := by
    rw [Bound.numeral, isWhole]
    cases b.part <;> exact ⟨_, rfl⟩
  obtain ⟨rest, isNumeral⟩ := startsNumeral
  have oneSpace : ∀ c ∈ [' '], CharSet.blank.contains c = true := by
    simp only [List.mem_singleton, forall_eq, CharSet.contains_blank]
    decide
  have atKey := prefers_literal key before
    (' ' :: (saying.toList ++ ' ' :: (b.numeral ++ tail))) []
  have gap := prefers_many_one [' '] (saying.toList ++ ' ' :: (b.numeral ++ tail)) oneSpace
    (by
      rw [isSign, signCons]
      rintro e ⟨⟩
      simpa using isBlank_of_startsSign starts) (key.reverse ++ before) []
  have atSign := prefers_literal saying.toList (' ' :: (key.reverse ++ before))
    (' ' :: (b.numeral ++ tail)) []
  have atSaying := prefers_choice_cons (more.map text) atSign
  have gap' := prefers_many_one [' '] (b.numeral ++ tail) oneSpace
    (by
      rw [isNumeral]
      rintro e ⟨⟩
      simpa using Text.isBlank_of_isDigit digit)
    (saying.toList.reverse ++ ' ' :: (key.reverse ++ before)) []
  have atNumeral := prefers_numeral wellFormed ends
    (' ' :: (saying.toList.reverse ++ ' ' :: (key.reverse ++ before))) []
  have fromGap' := prefers_seq gap' atNumeral
  have fromSaying := prefers_seq atSaying fromGap'
  have fromGap := prefers_seq gap fromSaying
  have fromKey := prefers_seq atKey fromGap
  rw [Relation.rule, numberRule, isCons, ← isSign]
  exact ⟨_, _, fromKey⟩

end TableQuery.Question
