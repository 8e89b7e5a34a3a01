import TableQuery.Proofs.Question.Remaining
import TableQuery.Proofs.Question.SortClauses
import TableQuery.Proofs.Question.SortConditions

/-! # The plan of a text that sorts

A text that sorts by a key of word characters does so, and no word of it is looked for in the
columns of texts.  Clauses for columns, places and states are looked for in it all the same, and
a key that reads like one of them gives the plan a filter.
-/

namespace TableQuery.Question

/-! ## Texts of which all is understood -/

theorem searchTerm?_blankOut {spans : List Span} {s : List Char}
    (whole : (⟨0, s.length⟩ : Span) ∈ spans) : searchTerm? (blankOut spans s) = none := by
  have covered : ∀ i, 0 ≤ i → i < 0 + s.length → inSpans spans i = true := by
    intro i _ below
    rw [inSpans, List.any_eq_true]
    exact ⟨_, whole, by simp; omega⟩
  have noWords : Text.words (blankOut spans s) = [] :=
    Text.words_eq_nil fun c member => by
      rw [blankOut, blankFrom_of_covered covered] at member
      rw [List.eq_of_mem_replicate member]
      rfl
  rw [searchTerm?, noWords]
  rfl

theorem filter_plan_eq_none_iff_of_noTerm {schema : Schema} {query : String}
    (noTerm : searchTerm? (remainingOf schema (Text.lower query.toList)) = none) :
    (plan schema query).filter = none ↔
      (∀ column ∈ schema.columns, columnCondition? (Text.lower query.toList) column = none) ∧
        placeCondition? schema (Text.lower query.toList) = none ∧
        statusCondition? schema (Text.lower query.toList) = none := by
  have noSearch : ¬ Origin.search.Applies schema (Text.lower query.toList)
      (remainingOf schema (Text.lower query.toList)) := by
    rintro ⟨isSome, -⟩
    rw [noTerm] at isSome
    cases isSome
  rw [filter_plan_eq_none_iff, Origin.forall_iff, applies_columns_iff, applies_place_iff,
    applies_status_iff, not_not, List.filterMap_eq_nil_iff, Option.not_isSome_iff_eq_none,
    Option.not_isSome_iff_eq_none]
  exact and_congr_right fun _ => and_congr_right fun _ => and_iff_left noSearch

/-! ## Texts that sort -/

/-- Does a text that sorts by the key say nothing else of the columns of the schema? -/
structure SortsOnly (schema : Schema) (key : String) (direction : Option SortOrder) : Prop where
  noDirection : ∀ column ∈ schema.columns, ∀ name ∈ columnNames column,
    ¬ LinksDirection name (Text.lower key.toList) direction
  noNumber : ∀ column ∈ schema.columns, ∀ name ∈ columnNames column,
    ¬ ComparesInKey name (Text.lower key.toList)
  /-- The key does not end like a word in front of a place, with the direction as the place. -/
  noPlace : columnWithKey? schema placeKeys = none ∨ direction = none ∨
    ∀ link ∈ placeWords, ¬ link.toList <:+ Text.lower key.toList
  noStatus : columnWithKey? schema statusKeys = none ∨
    ∀ status ∈ statusWords, ¬ status.toList <:+: Text.lower key.toList

theorem lowered_ofList_lower (key : String) :
    Text.lowered (String.ofList (Text.lower key.toList)) = Text.lowered key := by
  rw [Text.lowered, Text.lowered, String.toList_ofList, Text.lower_lower]

theorem column?_lower (schema : Schema) (key : String) :
    schema.column? (String.ofList (Text.lower key.toList)) = schema.column? key := by
  simp only [Schema.column?, Column.hasName, lowered_ofList_lower]

section

variable {schema : Schema} {column named : Column} {key : String}

theorem exists_column?_key (member : column ∈ schema.columns) :
    ∃ named, schema.column? column.key = some named := by
  rw [← Option.isSome_iff_exists, Schema.column?, List.find?_isSome]
  exact ⟨column, member, by simp [Column.hasName]⟩

variable (isNamed : schema.column? key = some named) (nonempty : key ≠ "")
  (isWord : ∀ c ∈ key.toList, Text.isWordChar c = true) (direction : Option SortOrder)

include isNamed nonempty isWord

theorem sortOf?_sortText : sortOf? schema (Text.lower (sortText key direction).toList) =
    some ⟨⟨0, (Text.lower (sortText key direction).toList).length⟩,
      ⟨named.key, direction.getD .asc⟩,
      "Sorted by " ++ named.label ++ " (" ++ (direction.getD .asc).name ++ ")"⟩ := by
  rw [lower_sortText]
  exact sortOf?_spaced (Text.lower_ne_nil fun isNil => nonempty (String.toList_eq_nil_iff.1 isNil))
    (fun _ inKey => Text.isWordChar_of_mem_lower isWord inKey) direction
    ((column?_lower schema key).trans isNamed)

theorem filter_plan_sortText_eq_none_iff :
    (plan schema (sortText key direction)).filter = none ↔
      (∀ column ∈ schema.columns, columnCondition?
          (Text.spaced (sortWords (Text.lower key.toList) direction)) column = none) ∧
        (columnWithKey? schema placeKeys = none ∨ direction = none ∨
          ∀ link ∈ placeWords, ¬ link.toList <:+ Text.lower key.toList) ∧
        (columnWithKey? schema statusKeys = none ∨
          ∀ status ∈ statusWords, ¬ status.toList <:+: Text.lower key.toList) := by
  have isSort := sortOf?_sortText isNamed nonempty isWord direction
  -- The clause for the order takes up the whole text, so no word of it is left to look for.
  have noTerm : searchTerm? (remainingOf schema (Text.lower (sortText key direction).toList)) =
      none := by
    refine searchTerm?_blankOut (List.mem_append_left _ ?_)
    rw [isSort]
    exact List.mem_singleton.2 rfl
  rw [filter_plan_eq_none_iff_of_noTerm noTerm, lower_sortText,
    placeCondition?_eq_none_iff (fun _ inKey => Text.isWordChar_of_mem_lower isWord inKey)
      (fun _ inKey => Text.staysLower_of_mem_lower inKey), statusCondition?_eq_none_iff]

theorem filter_plan_sortText_eq_none (sortsOnly : SortsOnly schema key direction) :
    (plan schema (sortText key direction)).filter = none :=
  (filter_plan_sortText_eq_none_iff isNamed nonempty isWord direction).2
    ⟨fun column member => columnCondition?_eq_none
        (fun _ inKey => Text.isWordChar_of_mem_lower isWord inKey)
        (sortsOnly.noDirection column member) (sortsOnly.noNumber column member),
      sortsOnly.noPlace, sortsOnly.noStatus⟩

end

/-- Does the key read like no part of a clause for a column, a place or a state? -/
structure IsPlainSortKey (word : List Char) : Prop where
  noLink : ∀ link ∈ phraseLinks, word ≠ link.toList
  noComparison : ∀ saying ∈ comparisonWords, ¬ saying.toList <:+: word
  noPlace : ∀ link ∈ placeWords, ¬ link.toList <:+ word
  noStatus : ∀ status ∈ statusWords, ¬ status.toList <:+: word

/-- A text that sorts by a plain key says nothing else, whatever columns there are. -/
theorem IsPlainSortKey.sortsOnly {key : String} (plain : IsPlainSortKey (Text.lower key.toList))
    (schema : Schema) (direction : Option SortOrder) : SortsOnly schema key direction where
  noDirection := by
    intro column member name isName links
    obtain ⟨link, isLink, same⟩ := links.isLink
    exact plain.noLink link isLink same
  noNumber := by
    intro column member name isName compares
    obtain ⟨saying, isSaying, left, d, right, split, -⟩ := compares
    exact plain.noComparison saying isSaying ⟨left, d :: right, by rw [split]; simp⟩
  noPlace := .inr (.inr plain.noPlace)
  noStatus := .inr plain.noStatus

/-- A text that sorts by the key of a column sorts by the column that the key names, and it has no
    filter if it says nothing else.  It has one if it does say more, at least where the digits of
    the key are those that numbers are written in. -/
theorem plan_sortText {schema : Schema} {column : Column} (member : column ∈ schema.columns)
    (nonempty : column.key ≠ "") (isWord : ∀ c ∈ column.key.toList, Text.isWordChar c = true)
    (direction : Option SortOrder) :
    (∃ named, schema.column? column.key = some named ∧
      (plan schema (sortText column.key direction)).sort =
        some ⟨named.key, direction.getD .asc⟩) ∧
      (SortsOnly schema column.key direction →
        (plan schema (sortText column.key direction)).filter = none) ∧
      ((∀ c ∈ Text.lower column.key.toList, Text.isDecimalDigit c = true → c.isDigit = true) →
        (plan schema (sortText column.key direction)).filter = none →
          SortsOnly schema column.key direction) := by
  obtain ⟨named, isNamed⟩ := exists_column?_key member
  refine ⟨⟨named, isNamed, ?_⟩,
    filter_plan_sortText_eq_none isNamed nonempty isWord direction, ?_⟩
  · rw [plan, sortOf?_sortText isNamed nonempty isWord direction]
    rfl
  · intro asciiDigits noFilter
    obtain ⟨noCondition, noPlace, noStatus⟩ :=
      (filter_plan_sortText_eq_none_iff isNamed nonempty isWord direction).1 noFilter
    have saysNothing : ∀ column ∈ schema.columns, ∀ name ∈ columnNames column,
        ¬ LinksDirection name _ direction ∧ ¬ ComparesInKey name _ :=
      fun column member name isName =>
        of_columnCondition?_eq_none asciiDigits (noCondition column member) isName
    exact ⟨fun column member name isName => (saysNothing column member name isName).1,
      fun column member name isName => (saysNothing column member name isName).2, noPlace, noStatus⟩

/-- A table of orders, with who is in charge and where they go. -/
def orders : Schema where
  columns := [⟨"total", .number, "Total", []⟩, ⟨"admin", .string, "Admin", []⟩,
    ⟨"city", .string, "City", []⟩]
  rowCount := 0
  sampleRows := []

theorem plan_sortText_total_desc :
    (∃ named, orders.column? "total" = some named ∧
      (plan orders (sortText "total" (some .desc))).sort = some ⟨named.key, .desc⟩) ∧
      (plan orders (sortText "total" (some .desc))).filter = none := by
  have plain : IsPlainSortKey (Text.lower "total".toList) := by
    have isLower : Text.lower "total".toList = "total".toList := by decide +kernel
    rw [isLower]
    exact ⟨by decide, by decide, by decide, by decide⟩
  have member : ⟨"total", .number, "Total", []⟩ ∈ orders.columns := List.mem_cons_self
  obtain ⟨sorts, noFilter, -⟩ := plan_sortText member (by decide) (by decide) (some .desc)
  exact ⟨sorts, noFilter (plain.sortsOnly orders (some .desc))⟩

/-- The end of `admin` stands in front of a place, so the direction is taken for one. -/
theorem filter_plan_sortText_admin_asc :
    (plan orders (sortText "admin" (some .asc))).filter =
      some ⟨[⟨"city", .contains, .scalar (.text "asc")⟩], .all⟩ := by
  rfl

end TableQuery.Question
