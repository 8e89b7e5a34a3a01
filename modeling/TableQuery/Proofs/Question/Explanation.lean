import TableQuery.Proofs.Question.Origin

/-! # Explanations are faithful

The explanation of a plan is made of phrases that say all that the plan does and nothing else:
its sort, its limit and its conditions, in this order.  Only a plan that does nothing is said to
show everything, for no phrase reads like that.
-/

namespace TableQuery.Question

variable {schema : Schema} {s remaining : List Char} {phrase : String} {phrases : List String}

/-! ## Phrases that do not read like an explanation of nothing -/

theorem ne_showAll_of_getLast? {c : Char} (isLast : phrase.toList.getLast? = some c)
    (notS : c ≠ 's') : phrase ≠ Plan.showAllExplanation := by
  rintro rfl
  exact notS (Option.some.inj isLast).symm

theorem getLast?_append_quote (text : String) : (text ++ "\"").toList.getLast? = some '"' := by
  rw [String.toList_append]
  exact List.getLast?_concat

theorem ne_showAll_of_isSaid {label : String} {operator : Operator} {value : Operand}
    (said : Says label operator value phrase) : phrase ≠ Plan.showAllExplanation := by
  cases said with
  | equals value => exact ne_showAll_of_getLast? (getLast?_append_quote _) (by decide)
  | contains value => exact ne_showAll_of_getLast? (getLast?_append_quote _) (by decide)
  | @compares relation literal value isPlain isValue =>
    -- The phrase ends in a character of the numeral, or in a blank if that is empty.
    rcases List.eq_nil_or_concat' literal.toList with isNil | ⟨stem, c, isConcat⟩
    · refine ne_showAll_of_getLast? (c := ' ') ?_ (by decide)
      rw [String.toList_append, String.toList_append, isNil, List.append_nil]
      exact List.getLast?_concat
    · refine ne_showAll_of_getLast? (c := c) ?_ ?_
      · rw [String.toList_append, isConcat, ← List.append_assoc, List.getLast?_concat]
      · rintro rfl
        exact absurd (isPlain 's' (by simp [isConcat])) (by simp [InUnsigned]; decide)

theorem ne_showAll_of_saysSort {sort : Option SortKey} (said : SaysSort schema sort phrases) :
    ∀ phrase ∈ phrases, phrase ≠ Plan.showAllExplanation := by
  cases said with
  | unsorted => simp
  | sorted member order =>
    intro phrase isPhrase
    rw [List.mem_singleton.1 isPhrase]
    refine ne_showAll_of_getLast? (c := ')') ?_ (by decide)
    rw [String.toList_append]
    exact List.getLast?_concat

theorem ne_showAll_of_saysLimit {limit : Option Nat} (said : SaysLimit limit phrases) :
    ∀ phrase ∈ phrases, phrase ≠ Plan.showAllExplanation := by
  cases said with
  | unlimited => simp
  | limited count =>
    intro phrase isPhrase same
    have sameHead := congrArg (fun text : String => text.toList.head?) same
    rw [List.mem_singleton.1 isPhrase, String.toList_append, String.toList_append] at sameHead
    exact absurd sameHead (by simp; decide)

theorem ne_showAll_of_explains {origin : Origin} {conditions : List Condition}
    (explains : origin.Explains schema s remaining conditions phrases) :
    ∀ phrase ∈ phrases, phrase ≠ Plan.showAllExplanation := by
  intro phrase isPhrase
  cases explains with
  | columns isEach tell =>
    obtain ⟨e, inEs, rfl⟩ := List.mem_map.1 isPhrase
    obtain ⟨column, -, tells⟩ := exists_tells_of_mem tell inEs
    exact ne_showAll_of_isSaid tells.isSaid
  | place inColumns isPlaceKey isContains tells =>
    rw [List.mem_singleton.1 isPhrase]
    exact ne_showAll_of_isSaid tells.isSaid
  | status inColumns isStatusKey isStatus isCondition tells =>
    rw [List.mem_singleton.1 isPhrase]
    exact ne_showAll_of_isSaid tells.isSaid
  | search isTerm =>
    rw [List.mem_singleton.1 isPhrase]
    exact ne_showAll_of_getLast? (getLast?_append_quote _) (by decide)

/-- Several phrases have a comma between them, which the explanation of nothing has not. -/
theorem intercalate_ne_showAll (somePhrase : phrases ≠ [])
    (others : ∀ phrase ∈ phrases, phrase ≠ Plan.showAllExplanation) :
    String.intercalate ", " phrases ≠ Plan.showAllExplanation := by
  cases phrases with
  | nil => exact absurd rfl somePhrase
  | cons first rest =>
    cases rest with
    | nil =>
      rw [String.intercalate_singleton]
      exact others first List.mem_cons_self
    | cons second rest =>
      intro same
      have comma : ',' ∈ (String.intercalate ", " (first :: second :: rest)).toList := by
        rw [String.intercalate_cons_cons, String.toList_append, String.toList_append]
        simp
      rw [same] at comma
      exact absurd comma (by decide)

/-- Phrases read like the explanation of nothing only if there are none. -/
theorem explanation_eq_showAll_iff
    (others : ∀ phrase ∈ phrases, phrase ≠ Plan.showAllExplanation) :
    (if phrases.isEmpty then Plan.showAllExplanation else String.intercalate ", " phrases) =
      Plan.showAllExplanation ↔ phrases = [] := by
  cases phrases with
  | nil => simp
  | cons first rest =>
    rw [List.isEmpty_cons, if_neg Bool.false_ne_true]
    exact iff_of_false (intercalate_ne_showAll (List.cons_ne_nil _ _) others)
      (List.cons_ne_nil _ _)

/-! ## Plans -/

/-- Do these phrases explain the filter of a plan?  It comes from the first origin that applies to
    the text, and there is none only if no origin applies. -/
inductive SaysFilter (schema : Schema) (s remaining : List Char) :
    Option Filter → List String → Prop where
  | unfiltered (noOrigin : ∀ origin : Origin, ¬ origin.Applies schema s remaining) :
      SaysFilter schema s remaining none []
  | filtered {origin : Origin} {f : Filter} {phrases : List String}
      (isFirst : origin.IsFirst schema s remaining) (nonempty : f.conditions ≠ [])
      (explains : origin.Explains schema s remaining f.conditions phrases) :
      SaysFilter schema s remaining (some f) phrases

/-- Does the plan leave a table as it is? -/
def ShowsAll (p : Plan) : Prop := p.filter = none ∧ p.sort = none ∧ p.limit = none

/-- Is the explanation of the plan of a query faithful to it? -/
structure IsFaithful (schema : Schema) (query : String) (p : Plan) : Prop where
  showsAll_iff : p.explanation = Plan.showAllExplanation ↔ ShowsAll p
  explained : ∃ sorting limiting filtering,
    SaysSort schema p.sort sorting ∧ SaysLimit p.limit limiting ∧
      SaysFilter schema (Text.lower query.toList)
        (remainingOf schema (Text.lower query.toList)) p.filter filtering ∧
      (¬ ShowsAll p →
        p.explanation = String.intercalate ", " (sorting ++ limiting ++ filtering))

theorem eq_nil_iff_of_saysSort {sort : Option SortKey} (said : SaysSort schema sort phrases) :
    phrases = [] ↔ sort = none := by
  cases said <;> simp

theorem eq_nil_iff_of_saysLimit {limit : Option Nat} (said : SaysLimit limit phrases) :
    phrases = [] ↔ limit = none := by
  cases said <;> simp

theorem phrases_ne_nil_of_explains {origin : Origin} {conditions : List Condition}
    (explains : origin.Explains schema s remaining conditions phrases)
    (nonempty : conditions ≠ []) : phrases ≠ [] := by
  cases explains with
  | columns isEach tell => simpa using nonempty
  | place inColumns isPlaceKey isContains tells => exact List.cons_ne_nil _ _
  | status inColumns isStatusKey isStatus isCondition tells => exact List.cons_ne_nil _ _
  | search isTerm => exact List.cons_ne_nil _ _

theorem eq_nil_iff_of_saysFilter {filter : Option Filter}
    (said : SaysFilter schema s remaining filter phrases) : phrases = [] ↔ filter = none := by
  cases said with
  | unfiltered noOrigin => simp
  | filtered isFirst nonempty explains =>
    have somePhrase := phrases_ne_nil_of_explains explains nonempty
    simp [somePhrase]

theorem ne_showAll_of_saysFilter {filter : Option Filter}
    (said : SaysFilter schema s remaining filter phrases) :
    ∀ phrase ∈ phrases, phrase ≠ Plan.showAllExplanation := by
  cases said with
  | unfiltered noOrigin => simp
  | filtered isFirst nonempty explains => exact ne_showAll_of_explains explains

theorem saysFilter_plan (schema : Schema) (query : String) :
    SaysFilter schema (Text.lower query.toList) (remainingOf schema (Text.lower query.toList))
      (plan schema query).filter (sourceOfQuery schema query).phrases := by
  rcases filter_plan_cases schema query with
    ⟨origin, makes, isFilter⟩ | ⟨noOrigin, isSource, isFilter⟩
  · rw [isFilter]
    exact .filtered makes.isFirst makes.nonempty makes.explains
  · rw [isFilter, isSource]
    exact .unfiltered noOrigin

/-- The explanation of a plan says its sort, its limit and its conditions, and that everything is
    shown just if there is nothing to say. -/
theorem plan_isFaithful (schema : Schema) (query : String) :
    IsFaithful schema query (plan schema query) := by
  have saidSort := saysSort_sortOf? schema (Text.lower query.toList)
  have saidLimit := saysLimit_limitOf? (Text.lower query.toList)
  have saidFilter := saysFilter_plan schema query
  generalize isSorting : ((sortOf? schema (Text.lower query.toList)).map (·.phrase)).toList =
    sorting at saidSort
  generalize isLimiting : ((limitOf? (Text.lower query.toList)).map (·.phrase)).toList =
    limiting at saidLimit
  generalize isFiltering : (sourceOfQuery schema query).phrases = filtering at saidFilter
  have isExplanation : (plan schema query).explanation =
      if (sorting ++ limiting ++ filtering).isEmpty then Plan.showAllExplanation
      else String.intercalate ", " (sorting ++ limiting ++ filtering) := by
    rw [← isSorting, ← isLimiting, ← isFiltering]
    rfl
  have isNil_iff : sorting ++ limiting ++ filtering = [] ↔ ShowsAll (plan schema query) := by
    have noSort := eq_nil_iff_of_saysSort saidSort
    have noLimit := eq_nil_iff_of_saysLimit saidLimit
    have noFilter := eq_nil_iff_of_saysFilter saidFilter
    rw [List.append_eq_nil_iff, List.append_eq_nil_iff, noSort, noLimit, noFilter]
    exact and_comm
  have others : ∀ phrase ∈ sorting ++ limiting ++ filtering, phrase ≠ Plan.showAllExplanation := by
    simp only [List.mem_append]
    rintro phrase ((inSorting | inLimiting) | inFiltering)
    · exact ne_showAll_of_saysSort saidSort phrase inSorting
    · exact ne_showAll_of_saysLimit saidLimit phrase inLimiting
    · exact ne_showAll_of_saysFilter saidFilter phrase inFiltering
  constructor
  case showsAll_iff => rw [isExplanation, explanation_eq_showAll_iff others, isNil_iff]
  case explained =>
    refine ⟨sorting, limiting, filtering, saidSort, saidLimit, saidFilter, fun notAll => ?_⟩
    have someWords := mt isNil_iff.1 notAll
    rw [isExplanation, if_neg (by simpa using someWords)]

end TableQuery.Question
