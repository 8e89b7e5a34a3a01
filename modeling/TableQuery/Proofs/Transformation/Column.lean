import TableQuery.Proofs.Cell.Sameness

/-! # Columns that are transformed

A column is transformed by way of a sample of its cells: a row is changed just if the sample
holds a cell that is the same as its own and is mapped to another one.  Applied to the rows, the
changes bring what that cell is mapped to into every row that the sample stands for, and touch
nothing else.
-/

namespace TableQuery

/-- The cells of a column that are mapped: of its cells in order, each unless the same one came
    before it, the first fifty. -/
def sampleOf (rows : List Row) (column : String) : List Cell :=
  ((rows.map (·.cell column)).eraseDupsBy Cell.same).take 50

/-- Does the cell of the sample stand for the one that the row has in the column? -/
structure StandsFor (rows : List Row) (column : String) (r : Cell) (row : Row) : Prop where
  sampled : r ∈ sampleOf rows column
  same : r.same (row.cell column) = true

/-- Does the transformer answer, in whatever order, with one pair for each cell that it is given,
    by which the cell is mapped as the function says? -/
def Transformer.MapsBy (by_ : Transformer) (t : Transformation) (column : String)
    (f : Cell → Cell) : Prop :=
  ∀ values, ∃ pairs, by_.mapValues t column values = .ok pairs ∧
    pairs.Perm (values.map fun v => (v, f v))

/-- Are these the changes by which a column is mapped? -/
structure Proposes (rows : List Row) (column : String) (f : Cell → Cell)
    (changes : List Change) : Prop where
  /-- They come in the order of the rows, and no row has two. -/
  inOrder : (changes.map (·.rowIndex)).Pairwise (· < ·)
  mem_iff : ∀ change, change ∈ changes ↔ ∃ row r, rows[change.rowIndex]? = some row ∧
    StandsFor rows column r row ∧ (f r).same (row.cell column) = false ∧
      change = ⟨change.rowIndex, column, row.cell column, f r⟩

/-- Are these the rows in which a column was mapped? -/
structure Maps (rows : List Row) (column : String) (f : Cell → Cell) (mapped : List Row) :
    Prop where
  length_eq : mapped.length = rows.length
  /-- A row for which the sample has a cell gets what that cell is mapped to. -/
  sampled : ∀ (i : Nat) row r, rows[i]? = some row → StandsFor rows column r row →
    ∃ row', mapped[i]? = some row' ∧ (row'.cell column).same (f r) = true ∧
      ∀ other, other ≠ column → row'.get? other = row.get? other
  others : ∀ (i : Nat) row, rows[i]? = some row → (∀ r, ¬ StandsFor rows column r row) →
    mapped[i]? = some row

/-! ## The sample -/

theorem distinctFrom_eq_take {seen : List Cell} (values : List Cell) (few : seen.length ≤ 50) :
    distinctFrom seen values = (seen ++ (values.filter fun v => !seen.any (·.same v)).eraseDupsBy
      Cell.same).take 50 := by
  induction values generalizing seen with
  | nil => simp [distinctFrom, List.take_of_length_le few]
  | cons v rest inductionHypothesis =>
    rw [distinctFrom, maxDistinct]
    split
    case isTrue full => rw [← full, List.take_left]
    case isFalse notFull =>
      split
      case isTrue known =>
        rw [inductionHypothesis few, List.filter_cons_of_neg (by simp [known])]
      case isFalse fresh =>
        have keepsFew : (seen ++ [v]).length ≤ 50 := by
          rw [List.length_append, List.length_singleton]
          omega
        -- What is the same as a cell before it is left out at once or one by one.
        have sameRest : (rest.filter fun u => !(seen ++ [v]).any (·.same u)) =
            (rest.filter fun u => !seen.any (·.same u)).filter fun u => u.same v = false := by
          rw [List.filter_filter]
          refine List.filter_congr fun u _ => ?_
          simp only [List.any_append, List.any_cons, List.any_nil, Bool.or_false,
            Cell.same_comm u v]
          cases seen.any (·.same u) <;> cases v.same u <;> rfl
        rw [inductionHypothesis keepsFew, List.filter_cons_of_pos (by simp [fresh]),
          List.eraseDupsBy_cons, sameRest, List.append_assoc, List.singleton_append]

theorem distinct_eq_sampleOf (rows : List Row) (column : String) :
    distinct (rows.map (·.cell column)) = sampleOf rows column := by
  rw [distinct, distinctFrom_eq_take _ (by simp), sampleOf]
  simp

theorem mem_of_mem_eraseDupsBy {α : Type} {r : α → α → Bool} {a : α} :
    ∀ {items : List α}, a ∈ items.eraseDupsBy r → a ∈ items
  -- Each step filters what is left, so the length decides and not the structure of the list.
  | [], member => by simp at member
  | first :: rest, member => by
    rw [List.eraseDupsBy_cons] at member
    rcases List.mem_cons.1 member with rfl | later
    · exact List.mem_cons_self
    · exact List.mem_cons_of_mem _ (List.mem_filter.1 (mem_of_mem_eraseDupsBy later)).1
termination_by items => items.length
decreasing_by exact Nat.lt_succ_of_le (List.length_filter_le _ _)

theorem pairwise_eraseDupsBy {α : Type} (r : α → α → Bool) :
    ∀ items : List α, (items.eraseDupsBy r).Pairwise fun a b => r b a = false
  | [] => by simp
  | first :: rest => by
    rw [List.eraseDupsBy_cons, List.pairwise_cons]
    refine ⟨fun b member => ?_, pairwise_eraseDupsBy r _⟩
    simpa using (List.mem_filter.1 (mem_of_mem_eraseDupsBy member)).2
termination_by items => items.length
decreasing_by exact Nat.lt_succ_of_le (List.length_filter_le _ _)

variable {rows : List Row} {column : String} {f : Cell → Cell}

theorem StandsFor.unique {r other : Cell} {row : Row} (stands : StandsFor rows column r row)
    (stands' : StandsFor rows column other row) : r = other := by
  by_contra differ
  have apart : (sampleOf rows column).Pairwise fun a b => a.same b = false := by
    refine ((pairwise_eraseDupsBy Cell.same _).imp fun notSame => ?_).sublist
      (List.take_sublist _ _)
    rwa [Cell.same_comm]
  have : Std.Symm fun a b : Cell => a.same b = false :=
    ⟨fun a b notSame => Cell.same_comm b a ▸ notSame⟩
  have notSame := apart.forall stands.sampled stands'.sampled differ
  rw [Cell.same_trans stands.same (Cell.same_symm stands'.same)] at notSame
  cases notSame

/-! ## The changes -/

def changeBy? (pairs : List (Cell × Cell)) (column : String) (rowIndex : Nat) (row : Row) :
    Option Change :=
  (pairs.find? (·.1.same (row.cell column))).bind fun pair =>
    changeOf? rowIndex column (row.cell column) pair.2

theorem columnChanges_eq (pairs : List (Cell × Cell)) (column : String) (index : Nat)
    (rows : List Row) : columnChanges pairs column index rows =
      (rows.zipIdx index).filterMap fun entry => changeBy? pairs column entry.2 entry.1 := by
  induction rows generalizing index with
  | nil => rfl
  | cons row rest inductionHypothesis =>
    rw [columnChanges, inductionHypothesis, List.zipIdx_cons, List.filterMap_cons]
    show (changeBy? pairs column index row).toList ++ _ = _
    cases changeBy? pairs column index row <;> rfl

theorem changeOf?_eq_some_iff {rowIndex : Nat} {key : String} {old new : Cell} {change : Change} :
    changeOf? rowIndex key old new = some change ↔
      new.same old = false ∧ change = ⟨rowIndex, key, old, new⟩ := by
  rw [changeOf?]
  cases new.same old <;> simp [eq_comm]

variable {pairs : List (Cell × Cell)}

/-- The pair that is found for a row is that of the cell that stands for it. -/
theorem find?_eq_some_iff (perm : pairs.Perm ((sampleOf rows column).map fun r => (r, f r)))
    {row : Row} {pair : Cell × Cell} :
    pairs.find? (·.1.same (row.cell column)) = some pair ↔
      ∃ r, StandsFor rows column r row ∧ pair = (r, f r) := by
  have mem_pairs (pair : Cell × Cell) :
      pair ∈ pairs ↔ ∃ r ∈ sampleOf rows column, pair = (r, f r) := by
    rw [perm.mem_iff, List.mem_map]
    simp only [eq_comm]
  have found_standsFor {pair : Cell × Cell}
      (found : pairs.find? (·.1.same (row.cell column)) = some pair) :
      ∃ r, StandsFor rows column r row ∧ pair = (r, f r) := by
    obtain ⟨r, sampled, rfl⟩ := (mem_pairs pair).1 (List.mem_of_find?_eq_some found)
    have same : r.same (row.cell column) = true := by simpa using List.find?_some found
    exact ⟨r, ⟨sampled, same⟩, rfl⟩
  refine ⟨found_standsFor, ?_⟩
  rintro ⟨r, stands, rfl⟩
  have isFound : (pairs.find? (·.1.same (row.cell column))).isSome = true :=
    List.find?_isSome.2 ⟨(r, f r), (mem_pairs _).2 ⟨r, stands.sampled, rfl⟩, stands.same⟩
  obtain ⟨other, found⟩ := Option.isSome_iff_exists.1 isFound
  obtain ⟨r', stands', rfl⟩ := found_standsFor found
  rw [found, stands.unique stands']

theorem changeBy?_eq_some_iff (perm : pairs.Perm ((sampleOf rows column).map fun r => (r, f r)))
    {rowIndex : Nat} {row : Row} {change : Change} :
    changeBy? pairs column rowIndex row = some change ↔
      ∃ r, StandsFor rows column r row ∧ (f r).same (row.cell column) = false ∧
        change = ⟨rowIndex, column, row.cell column, f r⟩ := by
  rw [changeBy?, Option.bind_eq_some_iff]
  constructor
  · rintro ⟨pair, found, isChange⟩
    obtain ⟨r, stands, rfl⟩ := (find?_eq_some_iff perm).1 found
    exact ⟨r, stands, changeOf?_eq_some_iff.1 isChange⟩
  · rintro ⟨r, stands, differs⟩
    exact ⟨(r, f r), (find?_eq_some_iff perm).2 ⟨r, stands, rfl⟩, changeOf?_eq_some_iff.2 differs⟩

theorem pairwise_zipIdx {α : Type} (items : List α) :
    items.zipIdx.Pairwise fun a b => a.2 < b.2 := by
  rw [← List.pairwise_map (f := Prod.snd) (R := (· < ·)), List.zipIdx_map_snd]
  exact List.pairwise_lt_range'

theorem proposes_columnChanges
    (perm : pairs.Perm ((sampleOf rows column).map fun r => (r, f r))) :
    Proposes rows column f (columnChanges pairs column 0 rows) := by
  rw [columnChanges_eq]
  constructor
  case inOrder =>
    rw [List.pairwise_map, List.pairwise_filterMap]
    refine (pairwise_zipIdx rows).imp fun before change isChange change' isChange' => ?_
    obtain ⟨-, -, -, rfl⟩ := (changeBy?_eq_some_iff perm).1 isChange
    obtain ⟨-, -, -, rfl⟩ := (changeBy?_eq_some_iff perm).1 isChange'
    exact before
  case mem_iff =>
    intro change
    rw [List.mem_filterMap]
    constructor
    · rintro ⟨⟨row, rowIndex⟩, member, isChange⟩
      obtain ⟨r, stands, differs, rfl⟩ := (changeBy?_eq_some_iff perm).1 isChange
      exact ⟨row, r, List.mem_zipIdx_iff_getElem?.1 member, stands, differs, rfl⟩
    · rintro ⟨row, r, isRow, stands, differs, isChange⟩
      exact ⟨(row, change.rowIndex), List.mem_zipIdx_iff_getElem?.2 isRow,
        (changeBy?_eq_some_iff perm).2 ⟨r, stands, differs, isChange⟩⟩

/-! ## The changes applied -/

def Row.written (row : Row) (changes : List Change) : Row :=
  changes.foldl (fun row change => row.insert change.column change.newValue) row

theorem getElem?_applyChanges (rows : List Row) (changes : List Change) (i : Nat) :
    (applyChanges rows changes)[i]? =
      rows[i]?.map fun row => row.written (changes.filter (·.rowIndex = i)) := by
  induction changes generalizing rows with
  | nil => simp [applyChanges, Row.written]
  | cons change later inductionHypothesis =>
    have isStep : applyChanges rows (change :: later) =
        applyChanges (applyChange rows change) later := rfl
    rw [isStep, inductionHypothesis, applyChange, List.getElem?_modify]
    by_cases here : change.rowIndex = i
    · rw [List.filter_cons_of_pos (by simpa using here)]
      cases rows[i]? <;> simp [here, Row.written]
    · rw [List.filter_cons_of_neg (by simpa using here)]
      cases rows[i]? <;> simp [here]

theorem length_applyChanges (rows : List Row) (changes : List Change) :
    (applyChanges rows changes).length = rows.length := by
  induction changes generalizing rows with
  | nil => rfl
  | cons change later inductionHypothesis =>
    have isStep : applyChanges rows (change :: later) =
        applyChanges (applyChange rows change) later := rfl
    rw [isStep, inductionHypothesis, applyChange, List.length_modify]

theorem filter_rowIndex_eq {changes : List Change}
    (inOrder : (changes.map (·.rowIndex)).Pairwise (· < ·)) {change : Change}
    (member : change ∈ changes) : changes.filter (·.rowIndex = change.rowIndex) = [change] := by
  induction changes with
  | nil => cases member
  | cons first later inductionHypothesis =>
    rw [List.map_cons, List.pairwise_cons] at inOrder
    obtain ⟨isFirst, inOrder⟩ := inOrder
    rcases List.mem_cons.1 member with rfl | isLater
    · rw [List.filter_cons_of_pos (by simp), List.filter_eq_nil_iff.2]
      intro other isOther
      have := isFirst _ (List.mem_map_of_mem isOther)
      simpa using (by omega : ¬ other.rowIndex = change.rowIndex)
    · have := isFirst _ (List.mem_map_of_mem isLater)
      have differ : ¬ first.rowIndex = change.rowIndex := by omega
      rw [List.filter_cons_of_neg (by simpa using differ), inductionHypothesis inOrder isLater]

theorem Proposes.maps {changes : List Change} (proposes : Proposes rows column f changes) :
    Maps rows column f (applyChanges rows changes) := by
  have unchanged {i : Nat} {row : Row} (isRow : rows[i]? = some row)
      (none : ∀ r, StandsFor rows column r row → (f r).same (row.cell column) = true) :
      (applyChanges rows changes)[i]? = some row := by
    have noChange : changes.filter (·.rowIndex = i) = [] := by
      rw [List.filter_eq_nil_iff]
      intro change member isHere
      obtain ⟨row', r, isRow', stands, differs, -⟩ := (proposes.mem_iff change).1 member
      obtain rfl : change.rowIndex = i := by simpa using isHere
      obtain rfl : row' = row := Option.some.inj (isRow'.symm.trans isRow)
      rw [none r stands] at differs
      cases differs
    rw [getElem?_applyChanges, noChange, isRow]
    rfl
  constructor
  case length_eq => exact length_applyChanges rows changes
  case sampled =>
    intro i row r isRow stands
    cases differs : (f r).same (row.cell column) with
    | true =>
      refine ⟨row, unchanged isRow fun other stands' => ?_, Cell.same_symm differs, fun _ _ => rfl⟩
      rwa [← stands.unique stands']
    | false =>
      have member : (⟨i, column, row.cell column, f r⟩ : Change) ∈ changes :=
        (proposes.mem_iff _).2 ⟨row, r, isRow, stands, differs, rfl⟩
      refine ⟨row.insert column (f r), ?_, ?_, ?_⟩
      · rw [getElem?_applyChanges, filter_rowIndex_eq proposes.inOrder member, isRow]
        rfl
      · have isCell : (row.insert column (f r)).cell column = f r := by
          rw [Row.cell, Row.get?_insert, if_pos rfl]
          rfl
        rw [isCell, Cell.same_refl]
      · intro other isOther
        rw [Row.get?_insert, if_neg (Ne.symm isOther)]
  case others =>
    intro i row isRow noneStands
    exact unchanged isRow fun r stands => absurd stands (noneStands r)

/-- A column is mapped by the changes of a transformation whose transformer maps each cell that it
    is given. -/
theorem transformColumn_maps (by_ : Transformer) (w : Workshop) (id : String) (rows : List Row)
    (named : Option String) {t : Transformation} (found : w.find? id = some t)
    (isColumn : named.or t.targetColumn = some column) (mapsBy : by_.MapsBy t column f) :
    ∃ changes, (w.transformColumn by_ id rows named).1 = .ok changes ∧
      Proposes rows column f changes ∧ Maps rows column f (applyChanges rows changes) := by
  obtain ⟨pairs, isMapped, perm⟩ := mapsBy (distinct (rows.map (·.cell column)))
  rw [distinct_eq_sampleOf] at perm
  have proposes := proposes_columnChanges perm
  refine ⟨columnChanges pairs column 0 rows, ?_, proposes, proposes.maps⟩
  simp [Workshop.transformColumn, found, isColumn, isMapped]

/-- The last row has the same cell as the first, for which the sample has one; the third is mapped
    to itself. -/
theorem transformColumn_maps_categorize :
    let categorize : Transformation := ⟨"categorize", "Categorize", .column, some "city", "", true⟩
    let rows : List Row := [⟨[("city", .number notANumber)], by decide⟩, Row.empty,
      ⟨[("city", .text "Category A")], by decide⟩, ⟨[("city", .number notANumber)], by decide⟩]
    let w : Workshop := ⟨[categorize], []⟩
    let category : Cell → Cell := fun _ => .text "Category A"
    w.find? "categorize" = some categorize ∧ (none.or categorize.targetColumn) = some "city" ∧
      Transformer.offline.MapsBy categorize "city" category ∧
      ∃ changes, (w.transformColumn .offline "categorize" rows none).1 = .ok changes ∧
        changes.map (·.rowIndex) = [0, 1, 3] ∧ Proposes rows "city" category changes ∧
        Maps rows "city" category (applyChanges rows changes) := by
  have mapsBy : Transformer.offline.MapsBy
      ⟨"categorize", "Categorize", .column, some "city", "", true⟩ "city"
      fun _ => .text "Category A" := fun values => ⟨_, rfl, .refl _⟩
  obtain ⟨changes, isOk, proposes, maps⟩ := transformColumn_maps .offline
    ⟨[⟨"categorize", "Categorize", .column, some "city", "", true⟩], []⟩ "categorize"
    [⟨[("city", .number notANumber)], by decide⟩, Row.empty,
      ⟨[("city", .text "Category A")], by decide⟩, ⟨[("city", .number notANumber)], by decide⟩]
    none rfl rfl mapsBy
  have isChanges := Except.ok.inj isOk
  exact ⟨rfl, rfl, mapsBy, changes, isOk, isChanges ▸ rfl, proposes, maps⟩

end TableQuery
