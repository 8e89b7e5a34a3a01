import TableQuery.Proofs.Question.Phrase

/-! # Where conditions come from

A text can ask for rows in four ways: by clauses for columns, by a place, by a state and by a
word that is looked for.  The conditions of a plan come from the first of these that the text
uses and the schema has columns for, and from no other.
-/

namespace TableQuery.Question

variable {schema : Schema} {s remaining : List Char}

/-- What conditions can come from, in the order in which it is tried. -/
inductive Origin where
  | columns
  | place
  | status
  | search
deriving DecidableEq, Repr

namespace Origin

/-- How many origins are tried before. -/
def rank : Origin → Nat
  | .columns => 0
  | .place => 1
  | .status => 2
  | .search => 3

/-- Does the text, of which a part remains to be searched, ask in this way for rows, and does the
    schema have a column for it? -/
def Applies (schema : Schema) (s remaining : List Char) : Origin → Prop
  | .columns => ∃ column ∈ schema.columns, ∃ rule ∈ columnRules, ∃ names,
      namePattern? column = some names ∧ (ruleCondition? column names s rule).isSome = true
  | .place => (Pattern.find? placeClause s).isSome = true ∧
      ∃ column ∈ schema.columns, Text.lowered column.key ∈ placeKeys
  | .status => (∃ word ∈ statusWords, word.toList <:+: s) ∧
      ∃ column ∈ schema.columns, Text.lowered column.key ∈ statusKeys
  | .search => (searchTerm? remaining).isSome = true ∧
      ∃ column ∈ schema.columns, column.type = .string

/-- Does this origin apply, and none that is tried before? -/
def IsFirst (schema : Schema) (s remaining : List Char) (origin : Origin) : Prop :=
  origin.Applies schema s remaining ∧
    ∀ earlier : Origin, earlier.rank < origin.rank → ¬ earlier.Applies schema s remaining

theorem forall_iff {holds : Origin → Prop} : (∀ origin, holds origin) ↔
    holds .columns ∧ holds .place ∧ holds .status ∧ holds .search := by
  refine ⟨fun all => ⟨all _, all _, all _, all _⟩, fun all origin => ?_⟩
  obtain ⟨columns, place, status, search⟩ := all
  cases origin <;> assumption

theorem rank_injective : Function.Injective rank := by
  intro origin other
  cases origin <;> cases other <;> decide

theorem IsFirst.unique {origin other : Origin} (first : origin.IsFirst schema s remaining)
    (second : other.IsFirst schema s remaining) : origin = other := by
  have notBefore := mt (second.2 origin) (not_not.2 first.1)
  have notBehind := mt (first.2 other) (not_not.2 second.1)
  exact rank_injective (by omega)

theorem none_before_next {origin next : Origin} (isNext : next.rank = origin.rank + 1)
    (noneBefore : ∀ earlier : Origin, earlier.rank < origin.rank →
      ¬ earlier.Applies schema s remaining)
    (notHere : ¬ origin.Applies schema s remaining) :
    ∀ earlier : Origin, earlier.rank < next.rank → ¬ earlier.Applies schema s remaining := by
  intro earlier before
  rw [isNext] at before
  rcases Nat.lt_or_eq_of_le (Nat.le_of_lt_succ before) with above | same
  · exact noneBefore earlier above
  · rw [rank_injective same]
    exact notHere

/-- Does the origin give these conditions and explain them by these phrases? -/
inductive Explains (schema : Schema) (s remaining : List Char) :
    Origin → List Condition → List String → Prop where
  /-- Columns have at most one condition each, in their order. -/
  | columns {es : List Explained}
      (isEach : es = schema.columns.filterMap (columnCondition? s))
      (tell : List.SublistForall₂ Explained.Tells es schema.columns) :
      Explains schema s remaining .columns (es.map (·.condition)) (es.map (·.phrase))
  | place {e : Explained} {column : Column} (member : column ∈ schema.columns)
      (isPlaceKey : Text.lowered column.key ∈ placeKeys)
      (isContains : e.condition.operator = .contains) (tells : e.Tells column) :
      Explains schema s remaining .place [e.condition] [e.phrase]
  | status {e : Explained} {column : Column} {word : String} (member : column ∈ schema.columns)
      (isStatusKey : Text.lowered column.key ∈ statusKeys)
      (isStatus : word ∈ statusWords ∧ word.toList <:+: s)
      (isCondition : e.condition = ⟨column.key, .equals, .scalar (.text word)⟩)
      (tells : e.Tells column) :
      Explains schema s remaining .status [e.condition] [e.phrase]
  /-- One phrase explains the conditions of all columns of texts. -/
  | search {term : List Char} (isTerm : searchTerm? remaining = some term) :
      Explains schema s remaining .search
        ((schema.columnsOfType .string).map fun column =>
          ⟨column.key, .contains, .scalar (.text (String.ofList term))⟩)
        ["Searching for \"" ++ String.ofList term ++ "\""]

end Origin

/-! ## Which origins apply -/

theorem applies_columns_iff : Origin.columns.Applies schema s remaining ↔
    schema.columns.filterMap (columnCondition? s) ≠ [] := by
  have someCondition : schema.columns.filterMap (columnCondition? s) ≠ [] ↔
      ∃ column ∈ schema.columns, (columnCondition? s column).isSome = true := by
    simp [List.filterMap_eq_nil_iff, Option.isSome_iff_ne_none]
  rw [someCondition]
  refine exists_congr fun column => and_congr_right fun _ => ?_
  rw [columnCondition?]
  cases namePattern? column with
  | none => simp
  | some names => simp [List.findSome?_isSome_iff]

theorem columnWithKey?_isSome_iff {keys : List String} :
    (columnWithKey? schema keys).isSome = true ↔
      ∃ column ∈ schema.columns, Text.lowered column.key ∈ keys := by
  rw [columnWithKey?, List.find?_isSome]
  simp

theorem applies_place_iff : Origin.place.Applies schema s remaining ↔
    (placeCondition? schema s).isSome = true := by
  rw [Origin.Applies, ← columnWithKey?_isSome_iff, placeCondition?]
  cases Pattern.find? placeClause s with
  | none => simp
  | some found => cases columnWithKey? schema placeKeys <;> simp

theorem applies_status_iff : Origin.status.Applies schema s remaining ↔
    (statusCondition? schema s).isSome = true := by
  have isFound : (statusWords.find? fun word => Text.occursIn word.toList s).isSome = true ↔
      ∃ word ∈ statusWords, word.toList <:+: s := by
    rw [List.find?_isSome]
    simp only [Text.occursIn_iff]
  rw [Origin.Applies, ← columnWithKey?_isSome_iff, ← isFound, statusCondition?]
  cases statusWords.find? fun word => Text.occursIn word.toList s with
  | none => simp
  | some word => cases columnWithKey? schema statusKeys <;> simp

/-! ## What the origins give -/

theorem sublistForall₂_filterMap {α β : Type} {relates : β → α → Prop} {choose : α → Option β}
    (chosen : ∀ a b, choose a = some b → relates b a) (items : List α) :
    List.SublistForall₂ relates (items.filterMap choose) items := by
  induction items with
  | nil => exact .nil
  | cons first rest inductionHypothesis =>
    cases isChosen : choose first with
    | none =>
      rw [List.filterMap_cons_none isChosen]
      exact .cons_right inductionHypothesis
    | some b =>
      rw [List.filterMap_cons_some isChosen]
      exact .cons (chosen first b isChosen) inductionHypothesis

theorem exists_tells_of_mem {es : List Explained} {columns : List Column}
    (tell : List.SublistForall₂ Explained.Tells es columns) {e : Explained} (member : e ∈ es) :
    ∃ column ∈ columns, e.Tells column := by
  induction tell with
  | nil => cases member
  | cons tells _ inductionHypothesis =>
    rcases List.mem_cons.1 member with rfl | later
    · exact ⟨_, List.mem_cons_self, tells⟩
    · obtain ⟨column, inColumns, tells⟩ := inductionHypothesis later
      exact ⟨column, List.mem_cons_of_mem _ inColumns, tells⟩
  | cons_right _ inductionHypothesis =>
    obtain ⟨column, inColumns, tells⟩ := inductionHypothesis member
    exact ⟨column, List.mem_cons_of_mem _ inColumns, tells⟩

theorem explains_columns : Origin.columns.Explains schema s remaining
    ((schema.columns.filterMap (columnCondition? s)).map (·.condition))
    ((schema.columns.filterMap (columnCondition? s)).map (·.phrase)) := by
  have chosen : ∀ column e, columnCondition? s column = some e → e.Tells column :=
    fun _ _ isSome => tells_of_columnCondition? isSome
  exact .columns rfl (sublistForall₂_filterMap chosen schema.columns)

theorem explains_place {e : Explained} (isSome : placeCondition? schema s = some e) :
    Origin.place.Explains schema s remaining [e.condition] [e.phrase] := by
  rw [placeCondition?] at isSome
  split at isSome
  case h_1 found column isFound isColumn =>
    obtain ⟨member, isPlaceKey⟩ := mem_of_columnWithKey? isColumn
    cases isSome
    exact .place member isPlaceKey rfl ⟨rfl, says_describe_contains _ _⟩
  case h_2 => cases isSome

theorem explains_status {e : Explained} (isSome : statusCondition? schema s = some e) :
    Origin.status.Explains schema s remaining [e.condition] [e.phrase] := by
  rw [statusCondition?] at isSome
  split at isSome
  case h_1 word column isFound isColumn =>
    obtain ⟨member, isStatusKey⟩ := mem_of_columnWithKey? isColumn
    have occurs : Text.occursIn word.toList s = true := by simpa using List.find?_some isFound
    cases isSome
    exact .status member isStatusKey
      ⟨List.mem_of_find?_eq_some isFound, Text.occursIn_iff.1 occurs⟩ rfl ⟨rfl, .equals word⟩
  case h_2 => cases isSome

/-- What the conditions of a text and their phrases are, if they come from this origin. -/
structure Origin.Makes (schema : Schema) (s remaining : List Char) (origin : Origin)
    (source : Source) : Prop where
  isFirst : origin.IsFirst schema s remaining
  explains : origin.Explains schema s remaining source.conditions source.phrases
  nonempty : source.conditions ≠ []
  junction_iff : source.junction s = .any ↔
    origin = .search ∨ 2 ≤ source.conditions.length ∧ " or ".toList <:+: s

theorem makes_clauses {origin : Origin} {e : Explained} {es : List Explained}
    (isFirst : origin.IsFirst schema s remaining)
    (explains : origin.Explains schema s remaining ((e :: es).map (·.condition))
      ((e :: es).map (·.phrase))) (notSearch : origin ≠ .search) :
    origin.Makes schema s remaining (.clauses (e :: es)) where
  isFirst := isFirst
  explains := explains
  nonempty := List.cons_ne_nil _ _
  junction_iff := by
    have occurs : Text.occursIn [' ', 'o', 'r', ' '] s = true ↔ " or ".toList <:+: s :=
      Text.occursIn_iff
    rw [Source.junction, Source.conditions, List.length_map, ← occurs]
    simp only [notSearch, false_or]
    split
    case isTrue several => simpa [Nat.succ_le_iff] using several
    case isFalse single => simpa [Nat.succ_le_iff] using single

theorem makes_search {term : List Char} (isFirst : Origin.search.IsFirst schema s remaining)
    (isTerm : searchTerm? remaining = some term) (someColumn : schema.columnsOfType .string ≠ []) :
    Origin.search.Makes schema s remaining
      (.search (String.ofList term) (schema.columnsOfType .string)) where
  isFirst := isFirst
  explains := .search isTerm
  nonempty := by simpa [Source.conditions] using someColumn
  junction_iff := by simp [Source.junction]

theorem columnsOfType_ne_nil_iff {type : ColumnType} :
    schema.columnsOfType type ≠ [] ↔ ∃ column ∈ schema.columns, column.type = type := by
  simp [Schema.columnsOfType]

/-- Where nothing else applies, a word is looked for, if there is one and somewhere to look. -/
theorem makes_searchSource (noneBefore : ∀ earlier : Origin, earlier.rank < Origin.search.rank →
    ¬ earlier.Applies schema s remaining) :
    Origin.search.Makes schema s remaining (searchSource schema remaining) ∨
      ((∀ origin : Origin, ¬ origin.Applies schema s remaining) ∧
        searchSource schema remaining = .clauses []) := by
  have none_of_not_search (notSearch : ¬ Origin.search.Applies schema s remaining)
      (origin : Origin) : ¬ origin.Applies schema s remaining := by
    by_cases isSearch : origin = .search
    · exact isSearch ▸ notSearch
    · exact noneBefore origin (by revert isSearch; cases origin <;> decide)
  rw [Origin.Applies, ← columnsOfType_ne_nil_iff] at none_of_not_search
  rw [searchSource]
  cases isTerm : searchTerm? remaining with
  | none =>
    refine .inr ⟨none_of_not_search ?_, rfl⟩
    simp [isTerm]
  | some term =>
    cases isColumns : schema.columnsOfType .string with
    | nil =>
      refine .inr ⟨none_of_not_search ?_, rfl⟩
      simp [isColumns]
    | cons first rest =>
      have someColumn : schema.columnsOfType .string ≠ [] := isColumns ▸ List.cons_ne_nil _ _
      have applies : Origin.search.Applies schema s remaining :=
        ⟨by rw [isTerm]; rfl, columnsOfType_ne_nil_iff.1 someColumn⟩
      have makes := makes_search ⟨applies, noneBefore⟩ isTerm someColumn
      rw [isColumns] at makes
      exact .inl makes

/-- The conditions of a text come from its first origin, if it has one. -/
theorem makes_sourceOf (schema : Schema) (s : List Char) (spans : List Span) :
    (∃ origin : Origin, origin.Makes schema s (blankOut spans s) (sourceOf schema s spans)) ∨
      ((∀ origin : Origin, ¬ origin.Applies schema s (blankOut spans s)) ∧
        sourceOf schema s spans = .clauses []) := by
  generalize isRemaining : blankOut spans s = remaining
  rw [sourceOf, isRemaining]
  have beforeColumns : ∀ earlier : Origin, earlier.rank < Origin.columns.rank →
      ¬ earlier.Applies schema s remaining := by
    intro earlier before
    cases before
  cases isColumns : schema.columns.filterMap (columnCondition? s) with
  | cons e es =>
    have applies : Origin.columns.Applies schema s remaining := by
      rw [applies_columns_iff, isColumns]
      exact List.cons_ne_nil _ _
    exact .inl ⟨.columns, makes_clauses ⟨applies, beforeColumns⟩
      (isColumns ▸ explains_columns) (by decide)⟩
  | nil =>
    have noColumns : ¬ Origin.columns.Applies schema s remaining := by
      rw [applies_columns_iff, isColumns]
      simp
    have beforePlace : ∀ earlier : Origin, earlier.rank < Origin.place.rank →
        ¬ earlier.Applies schema s remaining := Origin.none_before_next rfl beforeColumns noColumns
    cases isPlace : placeCondition? schema s with
    | some e =>
      have applies : Origin.place.Applies schema s remaining := by
        rw [applies_place_iff, isPlace]
        rfl
      exact .inl ⟨.place, makes_clauses ⟨applies, beforePlace⟩ (explains_place isPlace)
        (by decide)⟩
    | none =>
      have noPlace : ¬ Origin.place.Applies schema s remaining := by
        rw [applies_place_iff, isPlace]
        exact Bool.false_ne_true
      have beforeStatus : ∀ earlier : Origin, earlier.rank < Origin.status.rank →
          ¬ earlier.Applies schema s remaining := Origin.none_before_next rfl beforePlace noPlace
      cases isStatus : statusCondition? schema s with
      | some e =>
        have applies : Origin.status.Applies schema s remaining := by
          rw [applies_status_iff, isStatus]
          rfl
        exact .inl ⟨.status, makes_clauses ⟨applies, beforeStatus⟩ (explains_status isStatus)
          (by decide)⟩
      | none =>
        have noStatus : ¬ Origin.status.Applies schema s remaining := by
          rw [applies_status_iff, isStatus]
          exact Bool.false_ne_true
        have beforeSearch : ∀ earlier : Origin, earlier.rank < Origin.search.rank →
            ¬ earlier.Applies schema s remaining :=
          Origin.none_before_next rfl beforeStatus noStatus
        exact (makes_searchSource beforeSearch).imp_left fun makes => ⟨.search, makes⟩

/-! ## Plans -/

/-- The spans of a text that the clauses for order and number take up. -/
def understood (schema : Schema) (s : List Char) : List Span :=
  ((sortOf? schema s).map (·.span)).toList ++ ((limitOf? s).map (·.span)).toList

/-- What remains of a text to be searched. -/
def remainingOf (schema : Schema) (s : List Char) : List Char := blankOut (understood schema s) s

/-- Where the conditions of a query come from. -/
def sourceOfQuery (schema : Schema) (query : String) : Source :=
  sourceOf schema (Text.lower query.toList) (understood schema (Text.lower query.toList))

/-- The filter of a plan is what the first origin of its query makes, if there is one. -/
theorem filter_plan_cases (schema : Schema) (query : String) :
    (∃ origin : Origin,
        origin.Makes schema (Text.lower query.toList)
          (remainingOf schema (Text.lower query.toList)) (sourceOfQuery schema query) ∧
        (plan schema query).filter = some ⟨(sourceOfQuery schema query).conditions,
          (sourceOfQuery schema query).junction (Text.lower query.toList)⟩) ∨
      ((∀ origin : Origin, ¬ origin.Applies schema (Text.lower query.toList)
          (remainingOf schema (Text.lower query.toList))) ∧
        sourceOfQuery schema query = .clauses [] ∧ (plan schema query).filter = none) := by
  have isFilter : (plan schema query).filter =
      if (sourceOfQuery schema query).conditions.isEmpty then none
      else some ⟨(sourceOfQuery schema query).conditions,
        (sourceOfQuery schema query).junction (Text.lower query.toList)⟩ := rfl
  rw [isFilter]
  rcases makes_sourceOf schema (Text.lower query.toList)
    (understood schema (Text.lower query.toList)) with ⟨origin, makes⟩ | ⟨noOrigin, isNone⟩
  · have notEmpty : (sourceOfQuery schema query).conditions.isEmpty = false :=
      List.isEmpty_eq_false_iff.2 makes.nonempty
    exact .inl ⟨origin, makes, by rw [notEmpty]; rfl⟩
  · rw [← sourceOfQuery] at isNone
    exact .inr ⟨noOrigin, isNone, by rw [isNone]; rfl⟩

theorem filter_plan_eq_none_iff {schema : Schema} {query : String} :
    (plan schema query).filter = none ↔
      ∀ origin : Origin, ¬ origin.Applies schema (Text.lower query.toList)
        (remainingOf schema (Text.lower query.toList)) := by
  rcases filter_plan_cases schema query with ⟨origin, makes, isFilter⟩ | ⟨noOrigin, -, isNone⟩
  · rw [isFilter]
    exact iff_of_false (Option.some_ne_none _) fun noOrigin => noOrigin origin makes.isFirst.1
  · exact iff_of_true isNone noOrigin

end TableQuery.Question
