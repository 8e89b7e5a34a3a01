import TableQuery.Proofs.Decimal.Bits
import TableQuery.Proofs.Question.Origin

/-! # Plans are well formed

Whatever a query says, its plan can be run as it stands: its filter has conditions, in the order
of the columns and one for each column at most, every value suits its operator, and the sort is
on a column of the schema.
-/

namespace TableQuery.Question

variable {schema : Schema} {s remaining : List Char}

/-! ## Conditions -/

/-- Does the value suit the operator?  Texts are looked for, and numbers that are compared are
    not negative. -/
inductive Suits : Operator → Operand → Prop where
  | equals (value : String) : Suits .equals (.scalar (.text value))
  | contains (value : String) : Suits .contains (.scalar (.text value))
  | compares (relation : Relation) {value : Float} (isNumber : value.isNaN = false)
      (notNegative : 0 ≤ value) : Suits relation.operator (.scalar (.number value))

theorem Says.suits {label phrase : String} {operator : Operator} {value : Operand}
    (said : Says label operator value phrase) : Suits operator value := by
  cases said with
  | equals value => exact .equals value
  | contains value => exact .contains value
  | compares relation isPlain isValue =>
    obtain ⟨isNumber, notNegative⟩ := Double.zero_le_toFloat _
    exact .compares relation isNumber notNegative

theorem Suits.prepare_ne_invalid {operator : Operator} {value : Operand}
    (suits : Suits operator value) : Condition.prepare operator value ≠ .invalid := by
  cases suits with
  | equals value => exact Prepared.noConfusion
  | contains value => exact Prepared.noConfusion
  | compares relation isNumber notNegative => cases relation <;> exact Prepared.noConfusion

theorem sublist_keys_of_tells {es : List Explained} {columns : List Column}
    (tell : List.SublistForall₂ Explained.Tells es columns) :
    ((es.map (·.condition)).map (·.column)).Sublist (columns.map (·.key)) := by
  induction tell with
  | nil => exact List.nil_sublist _
  | cons tells _ inductionHypothesis =>
    rw [List.map_cons, List.map_cons, List.map_cons, tells.column_eq]
    exact inductionHypothesis.cons_cons _
  | cons_right _ inductionHypothesis =>
    rw [List.map_cons]
    exact inductionHypothesis.cons _

namespace Origin.Explains

variable {origin : Origin} {conditions : List Condition} {phrases : List String}
  (explains : origin.Explains schema s remaining conditions phrases)

include explains

theorem suits : ∀ c ∈ conditions, Suits c.operator c.value := by
  intro c member
  cases explains with
  | columns isEach tell =>
    obtain ⟨e, inEs, rfl⟩ := List.mem_map.1 member
    obtain ⟨column, -, tells⟩ := exists_tells_of_mem tell inEs
    exact tells.isSaid.suits
  | place inColumns isPlaceKey isContains tells =>
    rw [List.mem_singleton.1 member]
    exact tells.isSaid.suits
  | status inColumns isStatusKey isStatus isCondition tells =>
    rw [List.mem_singleton.1 member]
    exact tells.isSaid.suits
  | search isTerm =>
    obtain ⟨column, -, rfl⟩ := List.mem_map.1 member
    exact .contains _

theorem sublist_keys : (conditions.map (·.column)).Sublist (schema.columns.map (·.key)) := by
  cases explains with
  | columns isEach tell => exact sublist_keys_of_tells tell
  | place inColumns isPlaceKey isContains tells =>
    rw [List.map_singleton, List.singleton_sublist, tells.column_eq]
    exact List.mem_map_of_mem inColumns
  | status inColumns isStatusKey isStatus isCondition tells =>
    rw [List.map_singleton, List.singleton_sublist, tells.column_eq]
    exact List.mem_map_of_mem inColumns
  | search isTerm =>
    rw [List.map_map]
    exact List.filter_sublist.map _

end Origin.Explains

/-! ## Plans -/

/-- Do the conditions of the filter look for the word that remains of the query? -/
def IsSearch (schema : Schema) (query : String) (f : Filter) : Prop :=
  Origin.search.IsFirst schema (Text.lower query.toList)
      (remainingOf schema (Text.lower query.toList)) ∧
    ∃ phrases, Origin.search.Explains schema (Text.lower query.toList)
      (remainingOf schema (Text.lower query.toList)) f.conditions phrases

/-- Can the filter of a query be run as it stands? -/
structure IsRunnable (schema : Schema) (query : String) (f : Filter) : Prop where
  nonempty : f.conditions ≠ []
  inOrder : (f.conditions.map (·.column)).Sublist (schema.columns.map (·.key))
  once : (f.conditions.map (·.column)).Nodup
  suits : ∀ c ∈ f.conditions, Suits c.operator c.value
  ready : ∀ c ∈ f.conditions, Condition.prepare c.operator c.value ≠ .invalid
  any_iff : f.junction = .any ↔ IsSearch schema query f ∨
    2 ≤ f.conditions.length ∧ " or ".toList <:+: Text.lower query.toList

theorem column_mem_of_saysSort {key : SortKey} {phrases : List String}
    (said : SaysSort schema (some key) phrases) :
    key.column ∈ schema.columns.map (·.key) := by
  cases said with
  | sorted member order => exact List.mem_map_of_mem member

/-- The plan of a query has a filter that can be run, if it has one, and sorts by a column of the
    schema, if it sorts. -/
theorem plan_isRunnable {schema : Schema} (distinct : (schema.columns.map (·.key)).Nodup)
    (query : String) :
    (∀ f, (plan schema query).filter = some f → IsRunnable schema query f) ∧
      ∀ key, (plan schema query).sort = some key →
        key.column ∈ schema.columns.map (·.key) := by
  refine ⟨fun f isFilter => ?_, fun key isSort => ?_⟩
  · rcases filter_plan_cases schema query with ⟨origin, makes, isSome⟩ | ⟨-, -, isNone⟩
    · rw [isSome] at isFilter
      cases isFilter
      have inOrder := makes.explains.sublist_keys
      constructor
      case nonempty => exact makes.nonempty
      case inOrder => exact inOrder
      case once => exact inOrder.nodup distinct
      case suits => exact makes.explains.suits
      case ready => exact fun c member => (makes.explains.suits c member).prepare_ne_invalid
      case any_iff =>
        -- A filter comes from one origin only, so it is the search that made it if it is one.
        rw [makes.junction_iff]
        refine or_congr_left ⟨?_, fun ⟨isFirst, _⟩ => makes.isFirst.unique isFirst⟩
        rintro rfl
        exact ⟨makes.isFirst, _, makes.explains⟩
    · rw [isNone] at isFilter
      cases isFilter
  · have said := saysSort_sortOf? schema (Text.lower query.toList)
    have isSome : (sortOf? schema (Text.lower query.toList)).map (·.value) = some key := isSort
    rw [isSome] at said
    exact column_mem_of_saysSort said

/-- The conditions stand in the order of the columns, whatever order the query has. -/
theorem plan_isRunnable_status_or_total :
    let schema : Schema :=
      ⟨[⟨"status", .string, "Status", []⟩, ⟨"total", .number, "Total", []⟩], 0, []⟩
    let query := "total above 7 or status is pending sort by total"
    (schema.columns.map (·.key)).Nodup ∧
      (∃ f, (plan schema query).filter = some f ∧ f.junction = .any ∧
        f.conditions.map (·.column) = ["status", "total"] ∧ IsRunnable schema query f) ∧
      "total" ∈ schema.columns.map (·.key) := by
  have distinct : (["status", "total"] : List String).Nodup := by decide
  obtain ⟨isRunnable, isColumn⟩ := @plan_isRunnable
    ⟨[⟨"status", .string, "Status", []⟩, ⟨"total", .number, "Total", []⟩], 0, []⟩ distinct
    "total above 7 or status is pending sort by total"
  exact ⟨distinct, ⟨_, rfl, rfl, rfl, isRunnable _ rfl⟩, isColumn ⟨"total", .asc⟩ rfl⟩

end TableQuery.Question
