import TableQuery.Outcome
import TableQuery.Proofs.Sorting.Comparison

/-! # Which rows a plan selects

The result of a plan is told by positions of the dataset alone: the positions of the rows
that the plan asks for, brought into the order of its sort, and of these as many as its
limit allows.
-/

namespace TableQuery

/-! ## What a filter asks of a row -/

/-- Does the row meet the conditions as the filter combines them? Without conditions it does. -/
def Filter.Satisfied (f : Filter) (row : Row) : Prop :=
  match f.junction with
  | .all => ∀ c ∈ f.conditions, c.holds (row.get? c.column) = true
  | .any => f.conditions = [] ∨ ∃ c ∈ f.conditions, c.holds (row.get? c.column) = true

theorem Filter.accepts_iff {f : Filter} {row : Row} :
    f.accepts row = true ↔ f.Satisfied row := by
  obtain ⟨conditions, junction⟩ := f
  cases junction with
  | all =>
    simp only [accepts, isIdentity, combine, tests, Satisfied, Condition.holds, Bool.or_eq_true,
      List.isEmpty_iff, List.all_map, List.all_eq_true, Function.comp_apply, or_iff_right_iff_imp]
    rintro rfl c member
    cases member
  | any =>
    simp only [accepts, isIdentity, combine, tests, Satisfied, Condition.holds, Bool.or_eq_true,
      List.isEmpty_iff, List.any_map, List.any_eq_true, Function.comp_apply]

instance (f : Filter) (row : Row) : Decidable (f.Satisfied row) :=
  decidable_of_iff _ Filter.accepts_iff

/-- Does the plan ask for the row?  Its filter, if it has one, is satisfied. -/
def Plan.Wants (plan : Plan) (row : Row) : Prop := ∀ f, plan.filter = some f → f.Satisfied row

/-- The test that the filter of a plan makes. -/
def Plan.admits (plan : Plan) (row : Row) : Bool := plan.filter.all (·.accepts row)

theorem Plan.admits_iff {plan : Plan} {row : Row} : plan.admits row = true ↔ plan.Wants row := by
  unfold admits Wants
  cases plan.filter with
  | none => simp
  | some f => simp [Filter.accepts_iff]

instance (plan : Plan) (row : Row) : Decidable (plan.Wants row) :=
  decidable_of_iff _ Plan.admits_iff

/-- The positions, in the order of the dataset, of the rows that the plan asks for. -/
def Plan.matching (plan : Plan) (rows : List Row) : List Nat :=
  (List.range rows.length).filter fun p => rows[p]?.any fun row => decide (plan.Wants row)

theorem Plan.mem_matching {plan : Plan} {rows : List Row} {p : Nat} :
    p ∈ plan.matching rows ↔ ∃ row, rows[p]? = some row ∧ plan.Wants row := by
  simp only [matching, List.mem_filter, List.mem_range, Option.any_eq_true, decide_eq_true_eq]
  constructor
  · rintro ⟨-, row, found, wanted⟩
    exact ⟨row, found, wanted⟩
  · rintro ⟨row, found, wanted⟩
    exact ⟨(List.getElem?_eq_some_iff.1 found).1, row, found, wanted⟩

theorem Plan.pairwise_matching (plan : Plan) (rows : List Row) :
    (plan.matching rows).Pairwise (· < ·) :=
  List.pairwise_lt_range.filter _

/-! ## Entries and their positions -/

/-- Entries that stand for rows of a dataset: each has the row at its position. -/
def OfDataset (rows : List Row) (entries : List Entry) : Prop :=
  ∀ entry ∈ entries, rows[entry.position]? = some entry.row

theorem positions_numberFrom (n : Nat) (rows : List Row) :
    positions (Entry.numberFrom n rows) = List.range' n rows.length := by
  induction rows generalizing n with
  | nil => rfl
  | cons row rest inductionHypothesis =>
    simp only [Entry.numberFrom, positions, List.map_cons, List.length_cons, List.range'_succ]
    rw [← inductionHypothesis (n + 1)]
    rfl

theorem row_of_mem_numberFrom {n : Nat} {rows : List Row} {entry : Entry}
    (member : entry ∈ Entry.numberFrom n rows) :
    n ≤ entry.position ∧ rows[entry.position - n]? = some entry.row := by
  induction rows generalizing n with
  | nil => cases member
  | cons row rest inductionHypothesis =>
    rcases List.mem_cons.1 member with rfl | member
    · simp
    · obtain ⟨bound, found⟩ := inductionHypothesis member
      refine ⟨by omega, ?_⟩
      rw [show entry.position - n = (entry.position - (n + 1)) + 1 by omega]
      simpa using found

theorem ofDataset_ofRows (rows : List Row) : OfDataset rows (Entry.ofRows rows) :=
  fun _ member => (row_of_mem_numberFrom member).2

theorem positions_filter {rows : List Row} {entries : List Entry} (of : OfDataset rows entries)
    (test : Row → Bool) :
    positions (entries.filter fun entry => test entry.row) =
      (positions entries).filter fun p => rows[p]?.any test := by
  unfold positions
  rw [List.filter_map]
  congr 1
  apply List.filter_congr
  intro entry member
  simp [of entry member]

namespace Outcome

theorem filtered_eq_filter (plan : Plan) (entries : List Entry) :
    filtered plan.filter entries = entries.filter fun entry => plan.admits entry.row := by
  unfold filtered Plan.admits
  cases plan.filter with
  | none => simp
  | some f => simp [Filter.keep_eq_filter]

theorem positions_filtered (plan : Plan) (rows : List Row) :
    positions (filtered plan.filter (Entry.ofRows rows)) = plan.matching rows := by
  -- The filter tests rows and `matching` tests positions; the rows stand at their positions.
  rw [filtered_eq_filter, positions_filter (ofDataset_ofRows rows)]
  have same : (fun row => decide (plan.Wants row)) = plan.admits := by
    funext row
    rw [Bool.eq_iff_iff, decide_eq_true_eq, Plan.admits_iff]
  rw [Plan.matching, same, Entry.ofRows, positions_numberFrom, List.range_eq_range']

/-- Positions in the order of a sort; without one they stay as they are. -/
def inOrder (rows : List Row) : Option SortKey → List Nat → List Nat
  | none, ps => ps
  | some key, ps => MergeSort.sort (key.comparePositions rows) ps

theorem positions_arranged {rows : List Row} {entries : List Entry} (of : OfDataset rows entries)
    (sort : Option SortKey) :
    positions (arranged sort entries) = inOrder rows sort (positions entries) := by
  cases sort with
  | none => rfl
  | some key =>
    -- Rows at their positions compare as the positions do, so the sort can be told by these.
    refine MergeSort.map_sort Entry.position entries fun a aMember b bMember => ?_
    simp [SortKey.compareRows, SortKey.comparePositions, of a aMember, of b bMember]

theorem arranged_perm (sort : Option SortKey) (entries : List Entry) :
    (arranged sort entries).Perm entries := by
  cases sort with
  | none => exact .refl _
  | some key => exact MergeSort.sort_perm _ _

theorem inOrder_perm (rows : List Row) (sort : Option SortKey) (ps : List Nat) :
    (inOrder rows sort ps).Perm ps := by
  cases sort with
  | none => exact .refl _
  | some key => exact MergeSort.sort_perm _ _

/-- How many of so many rows a limit leaves. -/
def countWithin : Option Nat → Nat → Nat
  | some n, total => min n total
  | none, total => total

theorem limited_eq_take (limit : Option Nat) (entries : List Entry) :
    limited limit entries = entries.take (countWithin limit entries.length) := by
  cases limit with
  | none => simp [limited, countWithin]
  | some n => simp [limited, countWithin, ← List.take_eq_take_min]

/-! ## Selections -/

/-- The positions of a list in stable order by a sort: the same positions, each neighbour in
    its place by the sort or by the dataset, and the one arrangement with all pairs in their
    places if there is such an arrangement. -/
structure StablySorted (rows : List Row) (key : SortKey) (given sorted : List Nat) : Prop where
  perm : sorted.Perm given
  neighbours : sorted.IsChain (key.Precedes rows)
  unique : ∀ other : List Nat, other.Perm given → other.Pairwise (key.Precedes rows) →
    sorted = other

theorem stablySorted_inOrder (rows : List Row) (key : SortKey) {given : List Nat}
    (ascending : given.Pairwise (· < ·)) :
    StablySorted rows key given (inOrder rows (some key) given) where
  perm := inOrder_perm rows (some key) given
  neighbours := MergeSort.isChain_sort given ascending
  unique := fun _ permuted ordered =>
    MergeSort.eq_of_isChain_of_pairwise SortKey.not_precedes_of_precedes
      ((inOrder_perm rows (some key) given).trans permuted.symm)
      (MergeSort.isChain_sort given ascending) ordered

/-- What the result of a plan over the rows of a dataset is. -/
structure Selects (rows : List Row) (plan : Plan) (result : Outcome) : Prop where
  plan_eq : result.plan = plan
  /-- Every entry is a row of the dataset with its position. -/
  rows_eq : OfDataset rows result.entries
  positions_eq : positions result.entries =
    (inOrder rows plan.sort (plan.matching rows)).take
      (countWithin plan.limit (plan.matching rows).length)
  sorted : ∀ key, plan.sort = some key →
    StablySorted rows key (plan.matching rows) (inOrder rows plan.sort (plan.matching rows))
  filteredCount_eq : result.filteredCount = (plan.matching rows).length
  matchedCount_eq : result.matchedCount = countWithin plan.limit (plan.matching rows).length
  nodup : (positions result.entries).Nodup
  wanted : ∀ entry ∈ result.entries, plan.Wants entry.row
  /-- A wanted row is missing only if the limit is reached. -/
  missing : ∀ p row, rows[p]? = some row → plan.Wants row → p ∉ positions result.entries →
    ∃ n, plan.limit = some n ∧ result.entries.length = n ∧ n < (plan.matching rows).length

theorem entries_ofPlan (rows : List Row) (plan : Plan) :
    (ofPlan rows plan).entries =
      limited plan.limit (arranged plan.sort (filtered plan.filter (Entry.ofRows rows))) := by
  simp [ofPlan, execute]

theorem length_filtered (rows : List Row) (plan : Plan) :
    (filtered plan.filter (Entry.ofRows rows)).length = (plan.matching rows).length := by
  rw [← positions_filtered, positions, List.length_map]

theorem ofDataset_filtered (rows : List Row) (plan : Plan) :
    OfDataset rows (filtered plan.filter (Entry.ofRows rows)) := by
  intro entry member
  rw [filtered_eq_filter] at member
  exact ofDataset_ofRows rows entry (List.mem_of_mem_filter member)

theorem mem_filtered_of_mem_entries {rows : List Row} {plan : Plan} {entry : Entry}
    (member : entry ∈ (ofPlan rows plan).entries) :
    entry ∈ filtered plan.filter (Entry.ofRows rows) := by
  rw [entries_ofPlan, limited_eq_take] at member
  exact (arranged_perm _ _).mem_iff.1 (List.mem_of_mem_take member)

theorem positions_ofPlan (rows : List Row) (plan : Plan) :
    positions (ofPlan rows plan).entries =
      (inOrder rows plan.sort (plan.matching rows)).take
        (countWithin plan.limit (plan.matching rows).length) := by
  rw [entries_ofPlan, limited_eq_take, (arranged_perm _ _).length_eq, length_filtered]
  unfold positions
  rw [List.map_take]
  congr 1
  rw [← positions_filtered]
  exact positions_arranged (ofDataset_filtered rows plan) plan.sort

theorem length_entries_ofPlan (rows : List Row) (plan : Plan) :
    (ofPlan rows plan).entries.length = countWithin plan.limit (plan.matching rows).length := by
  rw [entries_ofPlan, limited_eq_take, (arranged_perm _ _).length_eq, length_filtered,
    List.length_take, (arranged_perm _ _).length_eq, length_filtered]
  cases plan.limit with
  | none => simp [countWithin]
  | some n => simp only [countWithin]; omega

theorem nodup_inOrder_matching (rows : List Row) (plan : Plan) :
    (inOrder rows plan.sort (plan.matching rows)).Nodup :=
  (inOrder_perm _ _ _).nodup_iff.2
    ((plan.pairwise_matching rows).imp fun earlier same => by omega)

theorem limit_reached_of_not_mem {rows : List Row} {plan : Plan} {p : Nat} {row : Row}
    (found : rows[p]? = some row) (wanted : plan.Wants row)
    (absent : p ∉ positions (ofPlan rows plan).entries) :
    ∃ n, plan.limit = some n ∧ (ofPlan rows plan).entries.length = n ∧
      n < (plan.matching rows).length := by
  rw [positions_ofPlan] at absent
  have member : p ∈ inOrder rows plan.sort (plan.matching rows) :=
    (inOrder_perm _ _ _).mem_iff.2 (Plan.mem_matching.2 ⟨row, found, wanted⟩)
  have length_eq := (inOrder_perm rows plan.sort (plan.matching rows)).length_eq
  have cut : countWithin plan.limit (plan.matching rows).length < (plan.matching rows).length := by
    by_contra whole
    rw [List.take_of_length_le (by omega)] at absent
    exact absent member
  rw [length_entries_ofPlan]
  cases limited : plan.limit with
  | none => rw [limited] at cut; simp [countWithin] at cut
  | some n =>
    rw [limited] at cut
    simp only [countWithin] at cut ⊢
    exact ⟨n, rfl, by omega, by omega⟩

/-- A plan selects the rows that it asks for, in the order of its sort and up to its limit,
    and a limit cuts the result of the same plan without one. -/
theorem ofPlan_selects (rows : List Row) (plan : Plan) :
    Selects rows plan (ofPlan rows plan) ∧
      ∀ limit, (ofPlan rows { plan with limit := some limit }).entries =
        (ofPlan rows { plan with limit := none }).entries.take limit := by
  refine ⟨?_, fun limit => ?_⟩
  · constructor
    case plan_eq => rfl
    case rows_eq =>
      intro entry member
      exact ofDataset_filtered rows plan entry (mem_filtered_of_mem_entries member)
    case positions_eq => exact positions_ofPlan rows plan
    case sorted =>
      intro key isSort
      rw [isSort]
      exact stablySorted_inOrder rows key (plan.pairwise_matching rows)
    case filteredCount_eq => exact length_filtered rows plan
    case matchedCount_eq => exact length_entries_ofPlan rows plan
    case nodup =>
      rw [positions_ofPlan]
      exact (nodup_inOrder_matching rows plan).sublist (List.take_sublist _ _)
    case wanted =>
      intro entry member
      have kept := mem_filtered_of_mem_entries member
      rw [filtered_eq_filter] at kept
      exact Plan.admits_iff.1 (List.mem_filter.1 kept).2
    case missing =>
      intro p row found wanted absent
      exact limit_reached_of_not_mem found wanted absent
  · rw [entries_ofPlan, entries_ofPlan]
    rfl

end Outcome

end TableQuery
