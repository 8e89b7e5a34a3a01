import TableQuery.Proofs.Question.Origin

/-! # The state that a text names

Where neither a clause nor a place is found, the words for states are looked for, one after the
other, as parts of the text.  A word that stands in the text is the one that is found if no word
before it in that order is a part of it.  This is so for all words but one: `active` is a part of
`inactive` and comes before it.
-/

namespace TableQuery

/-! ## Words in texts -/

namespace Text

def StandsAt (word s : List Char) (i : Nat) : Prop := word <+: s.drop i

instance (word s : List Char) (i : Nat) : Decidable (StandsAt word s i) :=
  inferInstanceAs (Decidable (word <+: s.drop i))

/-- Does the word stand somewhere in the text with no further word character next to it? -/
def StandsWhole (word s : List Char) : Prop :=
  ∃ i, i ≤ s.length ∧ StandsAt word s i ∧ (s.take i).getLast?.any isWordChar = false ∧
    (s.drop (i + word.length)).head?.any isWordChar = false

instance (word s : List Char) : Decidable (StandsWhole word s) :=
  inferInstanceAs (Decidable (∃ i, i ≤ s.length ∧ _))

/-- Does a word stand in the text only as a part of another one? -/
def StandsWithin (part word s : List Char) : Prop :=
  ∀ i ≤ s.length, StandsAt part s i →
    ∃ j, j ≤ i ∧ StandsAt word s j ∧ i + part.length ≤ j + word.length

instance (part word s : List Char) : Decidable (StandsWithin part word s) :=
  inferInstanceAs (Decidable (∀ i ≤ s.length, _))

variable {part word s : List Char}

theorem infix_of_standsAt {i : Nat} (stands : StandsAt word s i) : word <:+: s :=
  stands.isInfix.trans (List.drop_suffix i s).isInfix

theorem exists_standsAt_of_infix (occurs : word <:+: s) : ∃ i ≤ s.length, StandsAt word s i := by
  obtain ⟨before, after, rfl⟩ := occurs
  refine ⟨before.length, by simp, after, ?_⟩
  rw [List.append_assoc, List.drop_left]

/-- What stands in a text as a part of a word only, and stands there, is a part of the word. -/
theorem infix_of_standsWithin (within : StandsWithin part word s) (occurs : part <:+: s) :
    part <:+: word := by
  obtain ⟨i, inText, standsPart⟩ := exists_standsAt_of_infix occurs
  obtain ⟨j, before, standsWord, fits⟩ := within i inText standsPart
  -- Both the part and what is left of the word begin where the part stands.
  have standsRest : word.drop (i - j) <+: s.drop i := by
    obtain ⟨after, split⟩ := standsWord
    have dropped := congrArg (List.drop (i - j)) split
    rw [List.drop_drop, Nat.add_sub_of_le before] at dropped
    rw [← dropped, List.drop_append]
    exact List.prefix_append _ _
  have short : part.length ≤ (word.drop (i - j)).length := by
    rw [List.length_drop]
    omega
  have isStart : part <+: word.drop (i - j) :=
    List.prefix_of_prefix_length_le standsPart standsRest short
  exact isStart.isInfix.trans (List.drop_suffix _ _).isInfix

end Text

namespace Question

/-! ## The word that a text means -/

/-- Is this the one word for a state in the text?  Others stand there as parts of it only. -/
structure NamesStatus (word : String) (s : List Char) : Prop where
  isStatus : word ∈ statusWords
  whole : Text.StandsWhole word.toList s
  only : ∀ other ∈ statusWords, Text.StandsWhole other.toList s → other = word
  within : ∀ other ∈ statusWords, other ≠ word → Text.StandsWithin other.toList word.toList s

instance (word : String) (s : List Char) : Decidable (NamesStatus word s) :=
  decidable_of_iff (word ∈ statusWords ∧ Text.StandsWhole word.toList s ∧
      (∀ other ∈ statusWords, Text.StandsWhole other.toList s → other = word) ∧
      ∀ other ∈ statusWords, other ≠ word → Text.StandsWithin other.toList word.toList s)
    ⟨fun ⟨isStatus, whole, only, within⟩ => ⟨isStatus, whole, only, within⟩,
      fun names => ⟨names.isStatus, names.whole, names.only, names.within⟩⟩

variable {schema : Schema} {s : List Char} {word : String}

/-- Of the words for states, those occur in the text that are parts of the one that it names. -/
theorem NamesStatus.infix_iff (names : NamesStatus word s) {other : String}
    (isStatus : other ∈ statusWords) : other.toList <:+: s ↔ other.toList <:+: word.toList := by
  obtain ⟨i, -, stands, -⟩ := names.whole
  constructor
  · intro occurs
    by_cases same : other = word
    · rw [same]
    · exact Text.infix_of_standsWithin (names.within other isStatus same) occurs
  · intro isPart
    exact isPart.trans (Text.infix_of_standsAt stands)

def foundStatus (word : String) : String := if word = "inactive" then "active" else word

theorem foundStatus_eq_iff : foundStatus word = word ↔ word ≠ "inactive" := by
  rw [foundStatus]
  by_cases inactive : word = "inactive"
  · rw [inactive]
    decide
  · simp [inactive]

theorem find?_statusWords (names : NamesStatus word s) :
    statusWords.find? (fun other => Text.occursIn other.toList s) = some (foundStatus word) := by
  have sameParts : ∀ other ∈ statusWords,
      Text.occursIn other.toList s = Text.occursIn other.toList word.toList := by
    intro other isStatus
    rw [Bool.eq_iff_iff, Text.occursIn_iff, Text.occursIn_iff, names.infix_iff isStatus]
  have firstPart : ∀ word ∈ statusWords,
      statusWords.find? (fun other => Text.occursIn other.toList word.toList) =
        some (foundStatus word) := by decide
  rw [← List.head?_filter, List.filter_congr sameParts, List.head?_filter]
  exact firstPart word names.isStatus

/-! ## Plans -/

theorem filter_plan_of_find?_statusWords {query : String} {column : Column}
    (noClause : ∀ column ∈ schema.columns, columnCondition? (Text.lower query.toList) column = none)
    (noPlace : placeCondition? schema (Text.lower query.toList) = none)
    (isFirst : columnWithKey? schema statusKeys = some column)
    (isFound : statusWords.find? (fun other =>
      Text.occursIn other.toList (Text.lower query.toList)) = some word) :
    (plan schema query).filter =
      some ⟨[⟨column.key, .equals, .scalar (.text word)⟩], .all⟩ := by
  have isStatus : statusCondition? schema (Text.lower query.toList) =
      some ⟨⟨column.key, .equals, .scalar (.text word)⟩, describe column.label .equals word⟩ := by
    rw [statusCondition?, isFound, isFirst]
  have noClauses := List.filterMap_eq_nil_iff.2 noClause
  simp only [plan, sourceOf, noClauses, noPlace, isStatus]
  rfl

/-- Where no clause and no place is found, a text that names a state asks for that state in the
    first column for states, unless the state is `inactive`: then it asks for `active`. -/
theorem filter_plan_of_namesStatus {query : String} {column : Column}
    (noClause : ∀ column ∈ schema.columns, columnCondition? (Text.lower query.toList) column = none)
    (noPlace : placeCondition? schema (Text.lower query.toList) = none)
    (isFirst : columnWithKey? schema statusKeys = some column)
    (names : NamesStatus word (Text.lower query.toList)) :
    (plan schema query).filter =
        some ⟨[⟨column.key, .equals, .scalar (.text (foundStatus word))⟩], .all⟩ ∧
      ((plan schema query).filter =
          some ⟨[⟨column.key, .equals, .scalar (.text word)⟩], .all⟩ ↔ word ≠ "inactive") := by
  have isFilter := filter_plan_of_find?_statusWords noClause noPlace isFirst
    (find?_statusWords names)
  refine ⟨isFilter, ?_⟩
  rw [isFilter, ← foundStatus_eq_iff]
  simp

theorem filter_plan_of_namesStatus_completed :
    let customer : Column := ⟨"customer", .string, "Customer", []⟩
    let state : Column := ⟨"orderStatus", .string, "Order Status", []⟩
    let schema : Schema := ⟨[customer, state], 0, []⟩
    let query := "Show COMPLETED orders"
    let s := Text.lower query.toList
    (∀ column ∈ schema.columns, columnCondition? s column = none) ∧
      placeCondition? schema s = none ∧ columnWithKey? schema statusKeys = some state ∧
      NamesStatus "completed" s ∧ (plan schema query).filter =
        some ⟨[⟨"orderStatus", .equals, .scalar (.text "completed")⟩], .all⟩ := by
  intro customer state schema query s
  have noClause : schema.columns.all (fun column => (columnCondition? s column).isNone) = true := by
    decide +kernel
  simp only [List.all_eq_true, Option.isNone_iff_eq_none] at noClause
  have noPlace : placeCondition? schema s = none :=
    Option.isNone_iff_eq_none.1 (by decide +kernel)
  have isFirst : columnWithKey? schema statusKeys = some state :=
    List.find?_eq_some_iff_append.2
      ⟨by decide +kernel, [customer], [], rfl, by decide +kernel⟩
  have names : NamesStatus "completed" s := by decide +kernel
  exact ⟨noClause, noPlace, isFirst, names,
    (filter_plan_of_namesStatus noClause noPlace isFirst names).1⟩

/-- Customers who are inactive are asked for, and those who are active are shown. -/
theorem filter_plan_inactive :
    let customer : Column := ⟨"customer", .string, "Customer", []⟩
    let state : Column := ⟨"status", .string, "Status", []⟩
    let schema : Schema := ⟨[customer, state], 0, []⟩
    let query := "show inactive customers"
    let s := Text.lower query.toList
    (∀ column ∈ schema.columns, columnCondition? s column = none) ∧
      placeCondition? schema s = none ∧ columnWithKey? schema statusKeys = some state ∧
      NamesStatus "inactive" s ∧ (plan schema query).filter =
        some ⟨[⟨"status", .equals, .scalar (.text "active")⟩], .all⟩ := by
  intro customer state schema query s
  have noClause : schema.columns.all (fun column => (columnCondition? s column).isNone) = true := by
    decide +kernel
  simp only [List.all_eq_true, Option.isNone_iff_eq_none] at noClause
  have noPlace : placeCondition? schema s = none :=
    Option.isNone_iff_eq_none.1 (by decide +kernel)
  have isFirst : columnWithKey? schema statusKeys = some state :=
    List.find?_eq_some_iff_append.2
      ⟨by decide +kernel, [customer], [], rfl, by decide +kernel⟩
  have names : NamesStatus "inactive" s := by decide +kernel
  exact ⟨noClause, noPlace, isFirst, names,
    filter_plan_of_find?_statusWords noClause noPlace isFirst (find?_statusWords names)⟩

end Question

end TableQuery
