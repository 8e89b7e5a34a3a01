import TableQuery.Proofs.Question.BoundCondition
import TableQuery.Proofs.Question.ColumnClause
import TableQuery.Proofs.Question.NamedClause
import TableQuery.Proofs.Schema.Columns

/-! # Clauses that say what a column is

A clause such as `city is "rome"` takes the value behind `is` only up to the first blank or full
stop, even between quotes.  And where the quoted words name the column themselves, with a word
such as `called` behind it, the word behind that one is taken for what the column contains.
-/

namespace TableQuery.Question

open Pattern

/-! ## The text -/

/-- A value as it is written behind `is`. -/
inductive Written where
  /-- Digits on both sides of a point. -/
  | decimal (whole part : List Char)
  /-- Words between double quotes. -/
  | quoted (words : List (List Char))

namespace Written

def value : Written → List Char
  | .decimal whole part => whole ++ '.' :: part
  | .quoted words => Text.spaced words

def text : Written → List Char
  | .decimal whole part => whole ++ '.' :: part
  | .quoted words => '"' :: (Text.spaced words ++ ['"'])

/-- Is it made of ASCII digits, or of some plain words? -/
inductive WellFormed : Written → Prop where
  | decimal {whole part : List Char} (nonempty : whole ≠ [])
      (digits : ∀ c ∈ whole ++ part, c.isDigit = true) : WellFormed (.decimal whole part)
  | quoted {words : List (List Char)} (nonempty : words ≠ [])
      (plain : ∀ word ∈ words, IsPlainWord word) : WellFormed (.quoted words)

end Written

def isText (key : String) (v : Written) : String := key ++ " is " ++ String.ofList v.text

theorem toList_isText (key : String) (v : Written) :
    (isText key v).toList = key.toList ++ ' ' :: ('i' :: 's' :: ' ' :: v.text) := by
  simp [isText]

namespace Written

/-- The word that the value itself names the column, if it does. -/
def named? (key : List Char) : Written → Option (List Char)
  | .decimal _ _ => none
  | .quoted words => namedWord? key words

/-- What comes before the first point or blank. -/
def firstWord : Written → List Char
  | .decimal whole _ => whole
  | .quoted words => words.headD []

/-- What the text asks for: an operator and its operand. -/
def captured (key : List Char) (v : Written) : Operator × List Char :=
  match v.named? key with
  | some word => (.contains, word)
  | none => (.equals, v.firstWord)

end Written

theorem forall_mem_decimal {motive : Char → Prop} {whole part : List Char}
    (digits : ∀ c ∈ whole ++ part, c.isDigit = true)
    (digit : ∀ {c}, c.isDigit = true → motive c) (point : motive '.') :
    ∀ c ∈ whole ++ '.' :: part, motive c := by
  intro c member
  simp only [List.mem_append, List.mem_cons] at member
  rcases member with inWhole | rfl | inPart
  · exact digit (digits c (List.mem_append_left _ inWhole))
  · exact point
  · exact digit (digits c (List.mem_append_right _ inPart))

theorem lower_isText {key : String} (letters : ∀ c ∈ key.toList, c.isLower = true) {v : Written}
    (wellFormed : v.WellFormed) : Text.lower (isText key v).toList = (isText key v).toList := by
  have inValue : ∀ c ∈ v.text, Text.IsLowered c := by
    cases wellFormed with
    | decimal nonempty digits =>
      exact forall_mem_decimal digits Text.isLowered_of_isDigit (by decide)
    | @quoted words nonempty plain =>
      intro c member
      simp only [Written.text, List.mem_cons, List.mem_append, List.not_mem_nil, or_false] at member
      rcases member with rfl | inWords | rfl
      · decide
      · exact forall_mem_spaced (by decide) (fun word inWords => (plain word inWords).isLowered) c
          inWords
      · decide
  refine Text.lower_eq_self fun c member => ?_
  simp only [toList_isText, List.mem_append, List.mem_cons] at member
  rcases member with inKey | rfl | rfl | rfl | rfl | inText
  · exact Text.isLowered_of_isLower (letters c inKey)
  · decide
  · decide
  · decide
  · decide
  · exact inValue c inText

/-! ## The words behind `is` that name the column -/

theorem Written.WellFormed.exists_text_eq_cons {v : Written} (wellFormed : v.WellFormed) :
    ∃ c rest, v.text = c :: rest ∧ Text.isBlank c = false := by
  cases wellFormed with
  | @decimal whole part nonempty digits =>
    obtain ⟨c, more, rfl⟩ := List.exists_cons_of_ne_nil nonempty
    exact ⟨c, _, rfl, Text.isBlank_of_isDigit (digits c (by simp))⟩
  | quoted nonempty plain => exact ⟨'"', _, rfl, by decide⟩

theorem Written.WellFormed.not_beginsWithLink {v : Written} (wellFormed : v.WellFormed) :
    ¬ BeginsWithLink v.text := by
  rintro ⟨link, isLink, b, rest, cut, isBlank⟩
  cases wellFormed with
  | @decimal whole part nonempty digits =>
    have inText : b ∈ (Written.decimal whole part).text := by simp [cut]
    rw [forall_mem_decimal digits Text.isBlank_of_isDigit (by decide) b inText] at isBlank
    cases isBlank
  | quoted nonempty plain =>
    obtain ⟨c, more, isCons, letter⟩ := exists_cons_of_mem_nameLinks isLink
    rw [isCons] at cut
    rw [← (List.cons.inj cut).1] at letter
    exact absurd letter (by decide)

theorem find?_named_isText {key : List Char} (nonempty : key ≠ [])
    (letters : ∀ c ∈ key, c.isLower = true) {v : Written} (wellFormed : v.WellFormed) :
    (find? (namedRule.pattern (literal key)) (key ++ ' ' :: ('i' :: 's' :: ' ' :: v.text))).map
      (fun found => (found.pieces.get? 1).getD []) = v.named? key := by
  have notLink : ¬ BeginsWithLink (['i', 's'] ++ ' ' :: v.text) := fun begins =>
    absurd (beginsWithLink_of_word (by decide) (by decide) begins) (by decide)
  have solidText : ∀ c ∈ v.text.head?, Text.isBlank c = false := by
    obtain ⟨c, more, isCons, solid⟩ := wellFormed.exists_text_eq_cons
    simpa [isCons] using solid
  obtain ⟨before, passed⟩ : ∃ before, find? (namedRule.pattern (literal key))
      (key ++ ' ' :: (['i', 's'] ++ ' ' :: v.text)) =
        findFrom? (namedRule.pattern (literal key)) before v.text :=
    ⟨_, (findFrom?_named_word nonempty letters
        (fun c member => Text.isBlank_of_isLower (letters c member)) (by simp; decide)
        (fun named => notLink named.2) []).trans
      (findFrom?_named_word nonempty letters (by decide) solidText
        (fun named => wellFormed.not_beginsWithLink named.2) _)⟩
  refine (congrArg _ passed).trans ?_
  cases wellFormed with
  | decimal wholeNonempty digits =>
    rw [Written.text, findFrom?_named_solid
      (forall_mem_decimal digits Text.isBlank_of_isDigit (by decide))]
    rfl
  | quoted someWord plain =>
    rw [Written.text, findFrom?_cons fun rest =>
      not_takes_named_of_not_isLower nonempty letters (by decide)]
    exact findFrom?_named_spaced nonempty letters _ plain _

/-! ## The word behind `is` -/

/-- A clause such as `<column> is <phrase>`. -/
def isRule : ColumnRule := phraseRule .equals
  [choice [text "is", shortable "equal" "s", text "=", text "=="], blanks1]

theorem columnRules_eq_cons : columnRules = namedRule :: isRule :: columnRules.drop 2 := rfl

theorem exists_prefers_is {v : Written} (wellFormed : v.WellFormed) (key : List Char) :
    ∃ place start, Prefers (isRule.pattern (literal key))
      ⟨[], key ++ ' ' :: ('i' :: 's' :: ' ' :: v.text)⟩ [] (place, [⟨1, start, v.firstWord⟩]) := by
  have atPhrase : ∃ place start, Prefers phrase ⟨' ' :: 's' :: 'i' :: ' ' :: key.reverse, v.text⟩ []
      (place, [⟨1, start, v.firstWord⟩]) := by
    cases wellFormed with
    | @decimal whole part nonempty digits =>
      exact exists_prefers_phrase nonempty (fun c member => Text.isWordChar_of_isDigit
        (digits c (List.mem_append_left _ member))) (.point part) _ []
    | @quoted words nonempty plain =>
      obtain ⟨word, rest, rfl⟩ := List.exists_cons_of_ne_nil nonempty
      have plainWord := plain word List.mem_cons_self
      obtain ⟨tail, closes, isText⟩ := exists_closesWord rest
      rw [Written.text, isText]
      exact exists_prefers_quotedPhrase plainWord.nonempty plainWord.isWordChar closes _ []
  obtain ⟨c, more, isCons, solid⟩ := wellFormed.exists_text_eq_cons
  obtain ⟨place, start, atPhrase⟩ := atPhrase
  have gap := prefers_space (key.reverse ++ []) ('s' :: ' ' :: v.text) []
    (show Text.isBlank 'i' = false by decide)
  have isWord : Prefers (choice [text "is", shortable "equal" "s", text "=", text "=="])
      ⟨' ' :: (key.reverse ++ []), ['i', 's'] ++ ' ' :: v.text⟩ []
      (⟨['i', 's'].reverse ++ ' ' :: (key.reverse ++ []), ' ' :: v.text⟩, []) :=
    prefers_choice_cons _ (prefers_literal ['i', 's'] _ _ [])
  have gap' := prefers_space ('s' :: 'i' :: ' ' :: (key.reverse ++ [])) more [] solid
  rw [← isCons] at gap'
  rw [← List.append_nil key.reverse] at atPhrase
  exact ⟨place, start, prefers_seq (prefers_literal key [] _ []) (prefers_seq gap
    (prefers_seq isWord (prefers_seq gap' atPhrase)))⟩

/-! ## The condition on the column -/

theorem Written.WellFormed.solid_captured {v : Written} (wellFormed : v.WellFormed)
    (key : List Char) : ∀ c ∈ (v.captured key).2, Text.isBlank c = false := by
  cases wellFormed with
  | @decimal whole part nonempty digits =>
    exact fun c member => Text.isBlank_of_isDigit (digits c (List.mem_append_left _ member))
  | @quoted words nonempty plain =>
    obtain ⟨word, rest, rfl⟩ := List.exists_cons_of_ne_nil nonempty
    rw [Written.captured, Written.named?]
    cases isNamed : namedWord? key (word :: rest) with
    | none => exact (plain word List.mem_cons_self).solid
    | some other => exact (plain other (mem_of_namedWord? isNamed)).solid

theorem ruleCondition?_eq_some {column : Column} {names : Pattern} {s literal : List Char}
    {rule : ColumnRule} {found : Found} (isFound : find? (rule.pattern names) s = some found)
    (isText : rule.capture = .text) (isPiece : (found.pieces.get? 1).getD [] = literal)
    (solid : ∀ c ∈ literal, Text.isBlank c = false) :
    ruleCondition? column names s rule =
      some ⟨⟨column.key, rule.operator, .scalar (.text (String.ofList literal))⟩,
        describe column.label rule.operator (String.ofList literal)⟩ := by
  rw [ruleCondition?, isFound]
  simp only [isText, isPiece, Text.trim_eq_self_of_solid solid]
  rfl

def Written.condition (column : Column) (v : Written) : Condition :=
  ⟨column.key, (v.captured column.key.toList).1,
    .scalar (.text (String.ofList (v.captured column.key.toList).2))⟩

theorem columnCondition?_isText {column : Column} (nonempty : column.key.toList ≠ [])
    (letters : ∀ c ∈ column.key.toList, c.isLower = true)
    (label : column.label = Column.labelOfKey column.key) {v : Written}
    (wellFormed : v.WellFormed) :
    ∃ phrase, columnCondition? (isText column.key v).toList column =
      some ⟨v.condition column, phrase⟩ := by
  have solid := wellFormed.solid_captured column.key.toList
  have isNamed := find?_named_isText nonempty letters wellFormed
  rw [Written.captured] at solid
  rw [columnCondition?, namePattern?_eq_literal nonempty letters label, columnRules_eq_cons,
    toList_isText, Written.condition, Written.captured]
  simp only [List.findSome?_cons]
  cases isWord : v.named? column.key.toList with
  | some word =>
    rw [isWord] at isNamed solid
    obtain ⟨found, isFound, isPiece⟩ := Option.map_eq_some_iff.1 isNamed
    rw [ruleCondition?_eq_some isFound rfl isPiece solid]
    exact ⟨_, rfl⟩
  | none =>
    rw [isWord] at isNamed solid
    obtain ⟨place, start, prefers⟩ := exists_prefers_is wellFormed column.key.toList
    rw [ruleCondition?_eq_none (Option.map_eq_none_iff.1 isNamed),
      ruleCondition?_eq_some (find?_of_prefers prefers) rfl rfl solid]
    exact ⟨_, rfl⟩

/-! ## The plan -/

def conditionsOn (key : String) (s : List Char) (columns : List Column) : List Condition :=
  ((columns.filterMap (columnCondition? s)).map (·.condition)).filter (·.column = key)

theorem conditionsOn_cons (key : String) (s : List Char) (column : Column)
    (columns : List Column) :
    conditionsOn key s (column :: columns) =
      (if column.key = key then ((columnCondition? s column).map (·.condition)).toList else []) ++
        conditionsOn key s columns := by
  cases isSome : columnCondition? s column with
  | none => simp [conditionsOn, isSome]
  | some e =>
    have isColumn := (tells_of_columnCondition? isSome).column_eq
    by_cases same : column.key = key <;> simp [conditionsOn, isSome, isColumn, same]

theorem conditionsOn_eq_nil {key : String} {s : List Char} {columns : List Column}
    (absent : key ∉ columns.map (·.key)) : conditionsOn key s columns = [] := by
  induction columns with
  | nil => rfl
  | cons column rest inductionHypothesis =>
    simp only [List.map_cons, List.mem_cons, not_or] at absent
    rw [conditionsOn_cons, if_neg (Ne.symm absent.1), inductionHypothesis absent.2]
    rfl

theorem conditionsOn_eq_singleton {columns : List Column}
    (distinct : (columns.map (·.key)).Nodup) {column : Column} (member : column ∈ columns)
    {s : List Char} {e : Explained} (isSome : columnCondition? s column = some e) :
    conditionsOn column.key s columns = [e.condition] := by
  induction columns with
  | nil => cases member
  | cons first rest inductionHypothesis =>
    rw [List.map_cons, List.nodup_cons] at distinct
    rw [conditionsOn_cons]
    cases List.mem_cons.1 member with
    | inl isFirst =>
      rw [← isFirst] at distinct ⊢
      rw [if_pos rfl, isSome, conditionsOn_eq_nil distinct.1]
      rfl
    | inr later =>
      have differ : first.key ≠ column.key := fun same =>
        distinct.1 (same ▸ List.mem_map_of_mem later)
      rw [if_neg differ, inductionHypothesis distinct.2 later]
      rfl

/-- The value is taken as a whole just if it is one word between quotes. -/
theorem Written.WellFormed.captured_eq_value_iff {v : Written} (wellFormed : v.WellFormed)
    (key : List Char) : v.captured key = (.equals, v.value) ↔ ∃ word, v = .quoted [word] := by
  cases wellFormed with
  | @decimal whole part nonempty digits =>
    simp [Written.captured, Written.named?, Written.firstWord, Written.value]
  | @quoted words nonempty plain =>
    obtain ⟨word, rest, rfl⟩ := List.exists_cons_of_ne_nil nonempty
    cases rest with
    | nil =>
      simp [Written.captured, Written.named?, namedWord?, Written.firstWord, Written.value,
        Text.spaced]
    | cons second rest =>
      rw [Written.captured, Written.named?]
      cases isNamed : namedWord? key (word :: second :: rest) with
      | none => simp [Written.firstWord, Written.value, Text.spaced_cons]
      | some other => simp

/-- A text of the form `<column> is <value>` has one condition on the column: that it equals what
    comes before the first point or blank of the value, unless the value names the column.  So it
    is the whole value just if that is a single word between quotes. -/
theorem plan_isText {rows : List Row} {sampleSize : Nat} {schema : Schema}
    (built : Schema.build rows none sampleSize = .ok schema) {column : Column}
    (member : column ∈ schema.columns) (letters : ∀ c ∈ column.key.toList, c.isLower = true)
    {v : Written} (wellFormed : v.WellFormed) :
    ∃ f, (plan schema (isText column.key v)).filter = some f ∧
      f.conditions.filter (·.column = column.key) = [v.condition column] ∧
      (⟨column.key, .equals, .scalar (.text (String.ofList v.value))⟩ ∈ f.conditions ↔
        ∃ word, v = .quoted [word]) := by
  obtain ⟨distinct, others⟩ := Schema.keys_of_resolveAll (Schema.resolveAll_of_build built)
  have nonempty : column.key.toList ≠ [] := fun isNil =>
    (others column member).2 (String.toList_eq_nil_iff.1 isNil)
  obtain ⟨-, -, -, label⟩ := Schema.column_of_build built member
  obtain ⟨phrase, isSome⟩ := columnCondition?_isText nonempty letters label wellFormed
  have isLower := lower_isText letters wellFormed
  have onColumn := conditionsOn_eq_singleton distinct member isSome
  rw [← isLower] at isSome onColumn
  obtain ⟨junction, isFilter⟩ := exists_filter_plan
    (List.ne_nil_of_mem (List.mem_filterMap.2 ⟨column, member, isSome⟩))
  refine ⟨_, isFilter, onColumn, ?_⟩
  -- The condition can only be the one that is found on the column.
  have isFound := congrArg (fun found => ⟨column.key, .equals,
    .scalar (.text (String.ofList v.value))⟩ ∈ found) onColumn
  simp only [conditionsOn, List.mem_filter, decide_true, and_true, List.mem_singleton] at isFound
  rw [isFound, ← wellFormed.captured_eq_value_iff column.key.toList, Written.condition]
  cases isCaptured : v.captured column.key.toList with
  | mk operator operand =>
    simp [String.ofList_inj, eq_comm]

/-- The words of the second value name its column. -/
theorem plan_isText_city_and_guest :
    ∃ schema, Schema.build [Row.ofList [("city", .text "Rome"), ("guest", .null)]] none 5 =
        .ok schema ∧
      (∃ f, (plan schema "city is \"new york\"").filter = some f ∧
        f.conditions.filter (·.column = "city") = [⟨"city", .equals, .scalar (.text "new")⟩]) ∧
      ∃ f, (plan schema "guest is \"guest called ann lee\"").filter = some f ∧
        f.conditions.filter (·.column = "guest") =
          [⟨"guest", .contains, .scalar (.text "ann")⟩] := by
  have plainCity : ∀ word ∈ ["new".toList, "york".toList], IsPlainWord word := by
    simp only [List.forall_mem_cons]
    exact ⟨⟨by decide, by decide⟩, ⟨by decide, by decide⟩, by simp⟩
  have plainGuest : ∀ word ∈ ["guest".toList, "called".toList, "ann".toList, "lee".toList],
      IsPlainWord word := by
    simp only [List.forall_mem_cons]
    exact ⟨⟨by decide, by decide⟩, ⟨by decide, by decide⟩, ⟨by decide, by decide⟩,
      ⟨by decide, by decide⟩, by simp⟩
  obtain ⟨schema, city, guest, built, isColumns, isCity, isGuest⟩ : ∃ schema city guest,
      Schema.build [Row.ofList [("city", .text "Rome"), ("guest", .null)]] none 5 = .ok schema ∧
      schema.columns = [city, guest] ∧ city.key = "city" ∧ guest.key = "guest" :=
    ⟨_, _, _, rfl, rfl, rfl, rfl⟩
  refine ⟨schema, built, ?_, ?_⟩
  · obtain ⟨f, isFilter, onColumn, -⟩ := plan_isText built
      (show city ∈ schema.columns by simp [isColumns]) (by rw [isCity]; decide)
      (.quoted (List.cons_ne_nil _ _) plainCity)
    rw [isCity] at isFilter
    rw [Written.condition, isCity] at onColumn
    exact ⟨f, isFilter, onColumn⟩
  · obtain ⟨f, isFilter, onColumn, -⟩ := plan_isText built
      (show guest ∈ schema.columns by simp [isColumns]) (by rw [isGuest]; decide)
      (.quoted (List.cons_ne_nil _ _) plainGuest)
    rw [isGuest] at isFilter
    rw [Written.condition, isGuest] at onColumn
    exact ⟨f, isFilter, onColumn⟩

/-- A query about the whole of a value has a condition with a part of it. -/
theorem filter_plan_newYork_and_decimal :
    ∃ schema, Schema.build [Row.ofList [("city", .text "Rome"), ("total", .number 3)]] none 5 =
        .ok schema ∧
      (plan schema "city is \"new york\"").filter =
        some ⟨[⟨"city", .equals, .scalar (.text "new")⟩], .all⟩ ∧
      (plan schema "total is 12.5").filter =
        some ⟨[⟨"total", .equals, .scalar (.text "12")⟩], .all⟩ :=
  ⟨_, rfl, rfl, rfl⟩

end TableQuery.Question
