import Mathlib.Data.List.Basic
import TableQuery.Outcome
import TableQuery.Proofs.Question.Origin

/-! # The order of the columns

The columns of a schema stand in some order, and clauses, places and states are looked for in
that order.  Where names tell columns apart and at most one column holds places and at most one
states, the order makes no difference to the rows that a query finds: conditions and phrases
come in another order, and all else is the same.
-/

namespace TableQuery

/-- The names of a column in lower case. -/
def Column.names (c : Column) : List String := [Text.lowered c.key, Text.lowered c.label]

/-- Is it clear, without looking at the order of the columns, which of them is meant? -/
structure Schema.IsUnambiguous (schema : Schema) : Prop where
  /-- No name is shared by two columns. -/
  names : schema.columns.Pairwise fun c d => ∀ name ∈ c.names, name ∉ d.names
  /-- At most one column holds places. -/
  places : schema.columns.countP (fun c => Question.placeKeys.contains (Text.lowered c.key)) ≤ 1
  /-- At most one column holds the state of an order. -/
  statuses : schema.columns.countP (fun c => Question.statusKeys.contains (Text.lowered c.key)) ≤ 1

/-- Do two filters combine the same conditions in the same way? -/
structure Filter.Reorders (f g : Filter) : Prop where
  conditions : f.conditions.Perm g.conditions
  junction_eq : f.junction = g.junction

/-- The explanation that phrases make. -/
def Plan.explanationOf (phrases : List String) : String :=
  if phrases.isEmpty then showAllExplanation else String.intercalate ", " phrases

/-- Are two plans the same but for the order of their conditions and phrases? -/
structure Plan.Reorders (p q : Plan) : Prop where
  query_eq : p.query = q.query
  sort_eq : p.sort = q.sort
  limit_eq : p.limit = q.limit
  filter : Option.Rel Filter.Reorders p.filter q.filter
  explanation : ∃ phrases others : List String, phrases.Perm others ∧
    p.explanation = explanationOf phrases ∧ q.explanation = explanationOf others

/-- Are two results the same but for the order of the conditions and phrases of their plans? -/
structure Outcome.Reorders (o other : Outcome) : Prop where
  /-- The same rows stand at the same positions of the dataset, in the same order. -/
  entries_eq : o.entries = other.entries
  filteredCount_eq : o.filteredCount = other.filteredCount
  matchedCount_eq : o.matchedCount = other.matchedCount
  plan : o.plan.Reorders other.plan

/-! ## Looking for the one column that is meant -/

theorem countP_le_one {α : Type} {items : List α} {p : α → Bool}
    (apart : items.Pairwise fun a b => p a = true → ¬ p b = true) : items.countP p ≤ 1 := by
  induction apart with
  | nil => exact Nat.zero_le 1
  | @cons first rest others _ inductionHypothesis =>
    by_cases isFirst : p first = true
    · have noOther : rest.countP p = 0 :=
        List.countP_eq_zero.2 fun item member => others item member isFirst
      rw [List.countP_cons_of_pos isFirst, noOther]
    · rwa [List.countP_cons_of_neg isFirst]

theorem find?_eq_of_perm {α : Type} {items others : List α} {p : α → Bool}
    (perm : items.Perm others) (atMostOne : items.countP p ≤ 1) :
    items.find? p = others.find? p := by
  have permFiltered : (items.filter p).Perm (others.filter p) := perm.filter p
  rw [← List.head?_filter, ← List.head?_filter]
  rw [List.countP_eq_length_filter] at atMostOne
  match isFiltered : items.filter p with
  | [] =>
    rw [isFiltered] at permFiltered
    rw [permFiltered.symm.eq_nil]
  | [item] =>
    rw [isFiltered] at permFiltered
    rw [List.perm_singleton.1 permFiltered.symm]
  | first :: second :: rest =>
    rw [isFiltered, List.length_cons, List.length_cons] at atMostOne
    omega

theorem Column.hasName_iff {c : Column} {name : String} :
    c.hasName name = true ↔ Text.lowered name ∈ c.names := by
  simp only [hasName, names, Bool.or_eq_true, beq_iff_eq, List.mem_cons, List.not_mem_nil,
    or_false]
  exact or_congr eq_comm eq_comm

namespace Schema

variable {schema other : Schema}

theorem IsUnambiguous.countP_hasName_le (unambiguous : schema.IsUnambiguous) (name : String) :
    schema.columns.countP (·.hasName name) ≤ 1 := by
  refine countP_le_one (unambiguous.names.imp fun apart isFirst => ?_)
  rw [Column.hasName_iff]
  exact apart _ (Column.hasName_iff.1 isFirst)

theorem column?_eq_of_perm (perm : schema.columns.Perm other.columns)
    (unambiguous : schema.IsUnambiguous) (name : String) :
    schema.column? name = other.column? name :=
  find?_eq_of_perm perm (unambiguous.countP_hasName_le name)

theorem columnsOfType_perm (perm : schema.columns.Perm other.columns) (type : ColumnType) :
    (schema.columnsOfType type).Perm (other.columnsOfType type) :=
  perm.filter _

end Schema

/-! ## Plans -/

namespace Question

variable {schema other : Schema} {s : List Char}

/-- Do two sources of conditions give the same ones in different orders? -/
inductive Source.Reorders : Source → Source → Prop where
  | clauses {es others : List Explained} (perm : es.Perm others) :
      Reorders (.clauses es) (.clauses others)
  | search (term : String) {columns others : List Column} (perm : columns.Perm others) :
      Reorders (.search term columns) (.search term others)

namespace Source.Reorders

variable {source source' : Source}

theorem conditions_perm (reorders : source.Reorders source') :
    source.conditions.Perm source'.conditions := by
  cases reorders with
  | clauses perm => exact perm.map _
  | search term perm => exact perm.map _

theorem phrases_perm (reorders : source.Reorders source') :
    source.phrases.Perm source'.phrases := by
  cases reorders with
  | clauses perm => exact perm.map _
  | search term perm => exact .refl _

theorem junction_eq (reorders : source.Reorders source') :
    source.junction s = source'.junction s := by
  cases reorders with
  | clauses perm => rw [Source.junction, Source.junction, perm.length_eq]
  | search term perm => rfl

end Source.Reorders

theorem sortOf?_eq_of_perm (perm : schema.columns.Perm other.columns)
    (unambiguous : schema.IsUnambiguous) : sortOf? schema s = sortOf? other s := by
  simp only [sortOf?, Schema.column?_eq_of_perm perm unambiguous]

theorem placeCondition?_eq_of_perm (perm : schema.columns.Perm other.columns)
    (unambiguous : schema.IsUnambiguous) : placeCondition? schema s = placeCondition? other s := by
  have sameColumn : columnWithKey? schema placeKeys = columnWithKey? other placeKeys :=
    find?_eq_of_perm perm unambiguous.places
  rw [placeCondition?, placeCondition?, sameColumn]

theorem statusCondition?_eq_of_perm (perm : schema.columns.Perm other.columns)
    (unambiguous : schema.IsUnambiguous) :
    statusCondition? schema s = statusCondition? other s := by
  have sameColumn : columnWithKey? schema statusKeys = columnWithKey? other statusKeys :=
    find?_eq_of_perm perm unambiguous.statuses
  rw [statusCondition?, statusCondition?, sameColumn]

theorem searchSource_reorders (perm : schema.columns.Perm other.columns) (remaining : List Char) :
    (searchSource schema remaining).Reorders (searchSource other remaining) := by
  have permTexts := Schema.columnsOfType_perm perm .string
  rw [searchSource, searchSource]
  cases searchTerm? remaining with
  | none => exact .clauses (.refl _)
  | some term =>
    cases isTexts : schema.columnsOfType .string with
    | nil =>
      rw [isTexts] at permTexts
      rw [permTexts.symm.eq_nil]
      exact .clauses (.refl _)
    | cons first rest =>
      rw [isTexts] at permTexts
      cases isOthers : other.columnsOfType .string with
      | nil =>
        rw [isOthers] at permTexts
        exact absurd permTexts.eq_nil (List.cons_ne_nil _ _)
      | cons first' rest' => exact .search _ (isOthers ▸ permTexts)

/-- Conditions come from the same origin whatever the order of the columns. -/
theorem sourceOf_reorders (perm : schema.columns.Perm other.columns)
    (unambiguous : schema.IsUnambiguous) (spans : List Span) :
    (sourceOf schema s spans).Reorders (sourceOf other s spans) := by
  have permClauses := perm.filterMap (columnCondition? s)
  rw [sourceOf, sourceOf]
  cases isClauses : schema.columns.filterMap (columnCondition? s) with
  | nil =>
    rw [isClauses] at permClauses
    rw [permClauses.symm.eq_nil, ← placeCondition?_eq_of_perm perm unambiguous,
      ← statusCondition?_eq_of_perm perm unambiguous]
    cases placeCondition? schema s with
    | some e => exact .clauses (.refl _)
    | none =>
      cases statusCondition? schema s with
      | some e => exact .clauses (.refl _)
      | none => exact searchSource_reorders perm _
  | cons e es =>
    rw [isClauses] at permClauses
    cases isOthers : other.columns.filterMap (columnCondition? s) with
    | nil =>
      rw [isOthers] at permClauses
      exact absurd permClauses.eq_nil (List.cons_ne_nil _ _)
    | cons e' es' => exact .clauses (isOthers ▸ permClauses)

theorem sourceOfQuery_reorders (perm : schema.columns.Perm other.columns)
    (unambiguous : schema.IsUnambiguous) (query : String) :
    (sourceOfQuery schema query).Reorders (sourceOfQuery other query) := by
  have sameSpans : understood schema (Text.lower query.toList) =
      understood other (Text.lower query.toList) := by
    rw [understood, understood, sortOf?_eq_of_perm perm unambiguous]
  rw [sourceOfQuery, sourceOfQuery, sameSpans]
  exact sourceOf_reorders perm unambiguous _

/-- The plans of a text for the same columns in different orders differ in order only. -/
theorem plan_reorders (perm : schema.columns.Perm other.columns)
    (unambiguous : schema.IsUnambiguous) (query : String) :
    (plan schema query).Reorders (plan other query) := by
  have sameSort := sortOf?_eq_of_perm (s := Text.lower query.toList) perm unambiguous
  have source := sourceOfQuery_reorders perm unambiguous query
  constructor
  case query_eq => rfl
  case sort_eq => rw [plan, plan, sameSort]
  case limit_eq => rfl
  case filter =>
    show Option.Rel Filter.Reorders
      (if (sourceOfQuery schema query).conditions.isEmpty then none
        else some ⟨_, (sourceOfQuery schema query).junction (Text.lower query.toList)⟩)
      (if (sourceOfQuery other query).conditions.isEmpty then none
        else some ⟨_, (sourceOfQuery other query).junction (Text.lower query.toList)⟩)
    rw [source.conditions_perm.isEmpty_eq]
    split
    case isTrue => exact .none
    case isFalse => exact .some ⟨source.conditions_perm, source.junction_eq⟩
  case explanation =>
    refine ⟨_, _, List.Perm.append ?_ source.phrases_perm, rfl, rfl⟩
    rw [sameSort]

end Question

/-! ## Results -/

theorem Filter.Reorders.keep_eq {f g : Filter} (reorders : f.Reorders g) (entries : List Entry) :
    f.keep entries = g.keep entries := by
  have sameTest (row : Row) : f.accepts row = g.accepts row := by
    have permTests : f.tests.Perm g.tests := reorders.conditions.map _
    have sameCombined : combine g.junction f.tests row = combine g.junction g.tests row := by
      cases g.junction with
      | all => exact permTests.all_eq
      | any => exact permTests.any_eq
    rw [accepts, accepts, isIdentity, isIdentity, reorders.conditions.isEmpty_eq,
      reorders.junction_eq, sameCombined]
  rw [keep_eq_filter, keep_eq_filter]
  simp only [sameTest]

/-- Plans that differ in order only have results that differ in order only. -/
theorem Plan.Reorders.ofPlan {p q : Plan} (reorders : p.Reorders q) (rows : List Row) :
    (Outcome.ofPlan rows p).Reorders (Outcome.ofPlan rows q) := by
  have sameRows (entries : List Entry) :
      Outcome.filtered p.filter entries = Outcome.filtered q.filter entries := by
    match p.filter, q.filter, reorders.filter with
    | none, none, .none => rfl
    | some f, some g, .some filters => exact filters.keep_eq entries
  constructor
  case plan => exact reorders
  all_goals
    simp only [Outcome.ofPlan, Outcome.execute, sameRows, reorders.sort_eq, reorders.limit_eq]

theorem Plan.Reorders.refl (p : Plan) : p.Reorders p where
  query_eq := rfl
  sort_eq := rfl
  limit_eq := rfl
  filter := by
    cases p.filter with
    | none => exact .none
    | some f => exact .some ⟨.refl _, rfl⟩
  explanation := ⟨[p.explanation], [p.explanation], .refl _, rfl, rfl⟩

/-- A query finds the same rows in the same order whatever the order of the columns. -/
theorem Outcome.ofQuery_reorders {schema other : Schema}
    (perm : schema.columns.Perm other.columns) (unambiguous : schema.IsUnambiguous)
    (rows : List Row) (text : String) :
    (ofQuery rows schema text).Reorders (ofQuery rows other text) := by
  refine Plan.Reorders.ofPlan ?_ rows
  rw [planOf, planOf]
  split
  case isTrue => exact .refl _
  case isFalse => exact Question.plan_reorders perm unambiguous text

/-- The conditions come in the order of the columns, and the rows stay the same. -/
theorem Outcome.ofQuery_reorders_status_total :
    let status : Column := ⟨"status", .string, "Status", []⟩
    let total : Column := ⟨"total", .number, "Total", []⟩
    let rows : List Row := [Row.empty, ⟨[("status", .text "Pending")], by decide⟩]
    let text := "total above 7 or status is pending sort by total"
    let here : Schema := ⟨[status, total], 2, []⟩
    let there : Schema := ⟨[total, status], 2, []⟩
    here.columns.Perm there.columns ∧ here.IsUnambiguous ∧
      (∃ f g, (Question.plan here text).filter = some f ∧
        (Question.plan there text).filter = some g ∧
        f.conditions.map (·.column) = ["status", "total"] ∧
        g.conditions.map (·.column) = ["total", "status"]) ∧
      positions (ofQuery rows here text).entries = [1] ∧
      (ofQuery rows here text).Reorders (ofQuery rows there text) := by
  have unambiguous : Schema.IsUnambiguous
      ⟨[⟨"status", .string, "Status", []⟩, ⟨"total", .number, "Total", []⟩], 2, []⟩ := by
    constructor
    case names => decide
    case places => decide
    case statuses => decide
  exact ⟨.swap _ _ _, unambiguous, ⟨_, _, rfl, rfl, rfl, rfl⟩, by decide +kernel,
    ofQuery_reorders (.swap _ _ _) unambiguous _ _⟩

end TableQuery
