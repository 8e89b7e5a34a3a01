import TableQuery.Proofs.Text.Upper
import TableQuery.Proofs.Transformation.FewCells
import TableQuery.Proofs.Transformation.Pending

/-! # Standardizing a column again

A column that was standardized is left as it is by the same transformation, but for the texts that
begin with a letter whose upper case takes several capitals: of these only the first one stays a
capital when the text is standardized again.  A third time nothing is left to change.
-/

namespace TableQuery.Transformer

/-! ## Texts -/

/-- Does the upper case of the character go on with a capital letter? -/
def TakesCapitals (c : Char) : Prop := ∃ d ∈ (Text.upperChar c).tail, ¬ Text.StaysLower d

instance (c : Char) : Decidable (TakesCapitals c) :=
  List.decidableBEx (fun d => ¬ Text.StaysLower d) (Text.upperChar c).tail

/-- Does the text begin with a letter whose upper case takes several capitals? -/
def BeginsWide (s : List Char) : Prop := ∃ c ∈ s.head?, TakesCapitals c

theorem capitalize_cons {c d : Char} {more : List Char} (isUpper : Text.upperChar c = d :: more)
    (rest : List Char) : capitalize (c :: rest) = d :: (more ++ Text.lower rest) := by
  rw [capitalize, isUpper]
  rfl

theorem not_beginsWide_capitalize (s : List Char) : ¬ BeginsWide (capitalize s) := by
  rintro ⟨c, isHead, d, inTail, -⟩
  cases s with
  | nil => cases isHead
  | cons first rest =>
    obtain ⟨e, more, isUpper, stays⟩ := Text.exists_upperChar_eq first
    rw [capitalize_cons isUpper] at isHead
    obtain rfl : e = c := Option.some.inj isHead
    rw [stays] at inTail
    cases inTail

/-- A text is the same when it is capitalized again just if it did not begin with a letter whose
    upper case takes several capitals. -/
theorem capitalize_capitalize_iff (s : List Char) :
    capitalize (capitalize s) = capitalize s ↔ ¬ BeginsWide s := by
  cases s with
  | nil => exact iff_of_true rfl fun ⟨_, isHead, _⟩ => by cases isHead
  | cons c rest =>
    obtain ⟨d, more, isUpper, stays⟩ := Text.exists_upperChar_eq c
    have beginsWide : BeginsWide (c :: rest) ↔ ∃ e ∈ more, ¬ Text.StaysLower e := by
      simp [BeginsWide, TakesCapitals, isUpper]
    rw [capitalize_cons isUpper, capitalize_cons stays, List.nil_append, List.cons.injEq,
      beginsWide]
    simp only [true_and, not_exists, not_and, not_not]
    -- What stands behind the first capital is put into lower case the second time.
    constructor
    · intro same e member
      refine Text.staysLower_of_mem_lower (s := more ++ Text.lower rest) ?_
      rw [same]
      exact List.mem_append_left _ member
    · intro staysLower
      refine Text.lowerFrom_eq_self_of_stays (fun e member => ?_) []
      rcases List.mem_append.1 member with inMore | inRest
      · exact staysLower e inMore
      · exact Text.staysLower_of_mem_lower inRest

/-! ## Cells -/

def standardized : Cell → Cell
  | .text s => .text (String.ofList (capitalize s.toList))
  | cell => cell

/-- Is the cell a text that begins with a letter whose upper case takes several capitals? -/
def IsWide (cell : Cell) : Prop := ∃ s, cell = .text s ∧ BeginsWide s.toList

theorem eq_text_of_same {s : String} {cell : Cell} (same : (Cell.text s).same cell = true) :
    cell = .text s := by
  cases cell with
  | text u =>
    have isSame : s = u := eq_of_beq same
    rw [isSame]
  | null | bool _ | number _ => cases same

theorem standardized_of_text?_eq_none {cell : Cell} (noText : cell.text? = none) :
    standardized cell = cell := by
  cases cell with
  | text s => cases noText
  | null | bool _ | number _ => rfl

theorem text?_eq_of_same {a b : Cell} (same : a.same b = true) : a.text? = b.text? := by
  cases isText : a.text? with
  | some s =>
    cases a with
    | text u => rw [eq_text_of_same same, ← isText]
    | null | bool _ | number _ => cases isText
  | none =>
    cases b with
    | text u =>
      rw [eq_text_of_same (Cell.same_symm same)] at isText
      cases isText
    | null | bool _ | number _ => rfl

theorem respectful_standardized : Respectful standardized := by
  intro a b same
  cases a with
  | text s => rw [eq_text_of_same same, Cell.same_refl]
  | null | bool _ | number _ =>
    have noText := (text?_eq_of_same same).symm
    rwa [standardized_of_text?_eq_none noText]

theorem not_isWide_standardized (cell : Cell) : ¬ IsWide (standardized cell) := by
  rintro ⟨s, isText, wide⟩
  cases cell with
  | text u =>
    rw [← Cell.text.inj isText, String.toList_ofList] at wide
    exact not_beginsWide_capitalize _ wide
  | null | bool _ | number _ => cases isText

theorem same_standardized_iff (cell : Cell) :
    (standardized (standardized cell)).same (standardized cell) = true ↔ ¬ IsWide cell := by
  cases cell with
  | text s =>
    have isWide : IsWide (.text s) ↔ BeginsWide s.toList := by simp [IsWide]
    rw [isWide, ← capitalize_capitalize_iff, standardized, standardized, String.toList_ofList]
    show (String.ofList _ == String.ofList _) = true ↔ _
    rw [beq_iff_eq, String.ofList_inj]
  | null | bool _ | number _ =>
    refine iff_of_true (Cell.same_refl _) ?_
    rintro ⟨s, isText, -⟩
    cases isText

/-! ## Columns -/

def AsksStandard (id : String) : Prop :=
  Responder.mentions "standardize" id = true ∨ Responder.mentions "normalize" id = true

theorem cannedValues_of_asksStandard {id : String} (asks : AsksStandard id) (values : List Cell) :
    cannedValues id values =
      values.filterMap fun v => v.text?.map fun _ => (v, standardized v) := by
  rw [cannedValues, if_pos (by simpa [AsksStandard] using asks)]
  refine List.filterMap_congr fun v _ => ?_
  cases v <;> rfl

theorem changeBy?_cons (pair : Cell × Cell) (pairs : List (Cell × Cell)) (column : String)
    (rowIndex : Nat) (row : Row) : changeBy? (pair :: pairs) column rowIndex row =
      if pair.1.same (row.cell column) then changeOf? rowIndex column (row.cell column) pair.2
      else changeBy? pairs column rowIndex row := by
  rw [changeBy?, List.find?_cons]
  cases pair.1.same (row.cell column) <;> rfl

/-- Cells that are left out of the mapping are changed no more than cells that are mapped to
    themselves. -/
theorem changeBy?_cannedValues {id : String} (asks : AsksStandard id) (values : List Cell)
    (column : String) (rowIndex : Nat) (row : Row) :
    changeBy? (cannedValues id values) column rowIndex row =
      changeBy? (values.map fun v => (v, standardized v)) column rowIndex row := by
  rw [cannedValues_of_asksStandard asks]
  induction values with
  | nil => rfl
  | cons v rest inductionHypothesis =>
    rw [List.map_cons, changeBy?_cons, ← inductionHypothesis]
    cases isText : v.text? with
    | some s =>
      rw [List.filterMap_cons_some (b := (v, standardized v)) (by rw [isText]; rfl),
        changeBy?_cons]
    | none =>
      rw [List.filterMap_cons_none (by rw [isText]; rfl)]
      split
      · next same =>
        have notFound : changeBy? (rest.filterMap fun v => v.text?.map fun _ =>
            (v, standardized v)) column rowIndex row = none := by
          rw [changeBy?, List.find?_eq_none.2, Option.bind_none]
          rintro pair member sameText
          obtain ⟨u, -, isPair⟩ := List.mem_filterMap.1 member
          obtain ⟨s, isText', rfl⟩ := Option.map_eq_some_iff.1 isPair
          rw [text?_eq_of_same sameText, ← text?_eq_of_same same, isText] at isText'
          cases isText'
        rw [notFound, standardized_of_text?_eq_none isText, changeOf?, if_pos same]
      · rfl

variable {rows : List Row} {column id : String} {t : Transformation} {named : Option String}

theorem proposes_transformColumn {w : Workshop} (found : w.find? id = some t)
    (isColumn : named.or t.targetColumn = some column) (asks : AsksStandard id)
    (rows : List Row) :
    ∃ changes, (w.transformColumn .offline id rows named).1 = .ok changes ∧
      Proposes rows column standardized changes := by
  have isId : t.id = id := by simpa using List.find?_some found
  have sameChanges : columnChanges (cannedValues id (sampleOf rows column)) column 0 rows =
      columnChanges ((sampleOf rows column).map fun v => (v, standardized v)) column 0 rows := by
    rw [columnChanges_eq, columnChanges_eq]
    exact List.filterMap_congr fun entry _ => changeBy?_cannedValues asks _ column entry.2 entry.1
  refine ⟨columnChanges (cannedValues id (sampleOf rows column)) column 0 rows, ?_, ?_⟩
  · simp [Workshop.transformColumn, found, isColumn, offline, isId, distinct_eq_sampleOf]
  · rw [sameChanges]
    exact proposes_columnChanges (.refl _)

theorem isWide_of_same {a b : Cell} (same : a.same b = true) (wide : IsWide a) : IsWide b := by
  obtain ⟨s, rfl, wide⟩ := wide
  exact ⟨s, eq_text_of_same same, wide⟩

theorem not_isWide_of_same_standardized {a b : Cell} (same : a.same (standardized b) = true) :
    ¬ IsWide a := fun wide => not_isWide_standardized b (isWide_of_same same wide)

theorem mem_rowIndex_of_maps {mapped : List Row} {changes : List Change}
    (maps : Maps rows column standardized mapped) (few : HasFewCells rows column)
    (proposes : Proposes mapped column standardized changes) (i : Nat) :
    i ∈ changes.map (·.rowIndex) ↔ ∃ row, rows[i]? = some row ∧ IsWide (row.cell column) := by
  have changed {a b : Cell} (same : a.same (standardized b) = true) :
      (standardized a).same a = false ↔ IsWide b := by
    rw [respectful_standardized.same_congr same, ← Bool.not_eq_true, same_standardized_iff,
      not_not]
  rw [proposes.mem_rowIndex_iff (maps.hasFewCells few respectful_standardized)
    respectful_standardized]
  constructor
  · rintro ⟨row', isRow', differs⟩
    obtain ⟨row, isRow, same⟩ := maps.exists_row few respectful_standardized isRow'
    exact ⟨row, isRow, (changed same).1 differs⟩
  · rintro ⟨row, isRow, wide⟩
    obtain ⟨row', isRow', same⟩ := maps.cell_same few respectful_standardized isRow
    exact ⟨row', isRow', (changed same).2 wide⟩

/-- A run over a standardized column changes nothing just if no text of the column began with a
    letter whose upper case takes several capitals. -/
theorem eq_nil_iff_of_maps {mapped : List Row} {changes : List Change}
    (maps : Maps rows column standardized mapped) (few : HasFewCells rows column)
    (proposes : Proposes mapped column standardized changes) :
    changes = [] ↔ ∀ row ∈ rows, ¬ IsWide (row.cell column) := by
  have changed := mem_rowIndex_of_maps maps few proposes
  rw [← List.map_eq_nil_iff (f := fun change : Change => change.rowIndex),
    List.eq_nil_iff_forall_not_mem]
  constructor
  · intro noChange row isRow wide
    obtain ⟨i, isAt⟩ := List.getElem?_of_mem isRow
    exact noChange i ((changed i).2 ⟨row, isAt, wide⟩)
  · intro noneWide i member
    obtain ⟨row, isAt, wide⟩ := (changed i).1 member
    exact noneWide row (List.mem_of_getElem? isAt) wide

theorem find?_transformColumn {w : Workshop} (by_ : Transformer) (id : String) (rows : List Row)
    (named : Option String) (other : String) :
    (w.transformColumn by_ id rows named).2.find? other = w.find? other := by
  rw [Workshop.transformColumn_snd, Workshop.find?, Workshop.transformations_answered]
  rfl

end TableQuery.Transformer

namespace TableQuery

open Transformer

/-- Does a transformation come back with these changes of a column when it runs again and again,
    each time over the rows that its changes before left? -/
def Workshop.Repeats (by_ : Transformer) (id : String) (named : Option String) :
    Workshop → List Row → List (List Change) → Prop
  | _, _, [] => True
  | w, rows, changes :: later =>
    (w.transformColumn by_ id rows named).1 = .ok changes ∧
      Repeats by_ id named (w.transformColumn by_ id rows named).2 (applyChanges rows changes) later

/-- A column with no more distinct cells than are mapped is standardized by one run but for the
    texts that begin with a letter whose upper case takes several capitals, such as `ß`.  Just the
    rows with these are changed by a second run, and none by a third. -/
theorem transformColumn_standardizes (w : Workshop) {id : String} (rows : List Row)
    {named : Option String} {t : Transformation} {column : String} (found : w.find? id = some t)
    (isColumn : named.or t.targetColumn = some column) (asks : AsksStandard id)
    (few : HasFewCells rows column) :
    ∃ first second, w.Repeats .offline id named rows [first, second, []] ∧
      (∀ i, i ∈ second.map (·.rowIndex) ↔
        ∃ row, rows[i]? = some row ∧ IsWide (row.cell column)) ∧
      (second = [] ↔ ∀ row ∈ rows, ¬ IsWide (row.cell column)) := by
  obtain ⟨first, isFirst, proposesFirst⟩ := proposes_transformColumn found isColumn asks rows
  have maps := proposesFirst.maps
  have foundAgain := (find?_transformColumn .offline id rows named id).trans found
  obtain ⟨second, isSecond, proposesSecond⟩ :=
    proposes_transformColumn foundAgain isColumn asks (applyChanges rows first)
  obtain ⟨third, isThird, proposesThird⟩ := proposes_transformColumn
    ((find?_transformColumn .offline id (applyChanges rows first) named id).trans foundAgain)
    isColumn asks (applyChanges (applyChanges rows first) second)
  -- Every text begins with one capital now, so the rows before the third run have no wide cell.
  obtain rfl : third = [] := by
    refine (eq_nil_iff_of_maps proposesSecond.maps (maps.hasFewCells few respectful_standardized)
      proposesThird).2 fun row' isRow' => ?_
    obtain ⟨i, isAt⟩ := List.getElem?_of_mem isRow'
    obtain ⟨row, -, same⟩ := maps.exists_row few respectful_standardized isAt
    exact not_isWide_of_same_standardized same
  exact ⟨first, second, ⟨isFirst, isSecond, isThird, trivial⟩,
    mem_rowIndex_of_maps maps few proposesSecond, eq_nil_iff_of_maps maps few proposesSecond⟩

/-- The second row is changed by both runs, the first by one, and the third by none. -/
theorem transformColumn_standardizes_sharp_s :
    let standardize : Transformation :=
      ⟨"standardize-city", "Standardize", .column, some "city", "", true⟩
    let rows : List Row := [⟨[("city", .text "ROMA")], by decide⟩,
      ⟨[("city", .text "ßOLL")], by decide⟩, ⟨[("city", .number notANumber)], by decide⟩]
    let w : Workshop := ⟨[standardize], []⟩
    w.find? "standardize-city" = some standardize ∧
      none.or standardize.targetColumn = some "city" ∧ AsksStandard "standardize-city" ∧
      HasFewCells rows "city" ∧
      ∃ second, w.Repeats .offline "standardize-city" none rows
          [[⟨0, "city", .text "ROMA", .text "Roma"⟩, ⟨1, "city", .text "ßOLL", .text "SSoll"⟩],
            second, []] ∧
        1 ∈ second.map (·.rowIndex) ∧ 0 ∉ second.map (·.rowIndex) := by
  intro standardize rows w
  have asks : AsksStandard "standardize-city" := .inl (by decide)
  have few : HasFewCells rows "city" := by
    unfold HasFewCells
    decide
  have isColumn : none.or standardize.targetColumn = some "city" := rfl
  obtain ⟨first, second, repeats, changed, -⟩ :=
    transformColumn_standardizes w rows rfl isColumn asks few
  have isFirst : (w.transformColumn .offline "standardize-city" rows none).1 = .ok
      [⟨0, "city", .text "ROMA", .text "Roma"⟩, ⟨1, "city", .text "ßOLL", .text "SSoll"⟩] := by
    unfold w rows standardize
    rfl
  obtain rfl := Except.ok.inj (isFirst.symm.trans repeats.1)
  refine ⟨rfl, isColumn, asks, few, second, repeats, (changed 1).2 ?_, ?_⟩
  · exact ⟨_, rfl, "ßOLL", rfl, 'ß', rfl, by decide +kernel⟩
  · rw [changed 0]
    rintro ⟨row, isRow, s, isText, c, isHead, takes⟩
    cases isRow
    cases isText
    cases isHead
    revert takes
    decide +kernel

/-- The upper case of `ß` takes two capitals, of which a second run leaves one. -/
theorem transformColumn_changes_sharp_s_again :
    let standardize : Transformation :=
      ⟨"standardize", "Standardize", .column, some "city", "", true⟩
    let rows : List Row := [⟨[("city", .text "ßa")], by decide⟩]
    let w : Workshop := ⟨[standardize], []⟩
    w.find? "standardize" = some standardize ∧ AsksStandard "standardize" ∧
      HasFewCells rows "city" ∧
      w.Repeats .offline "standardize" none rows [[⟨0, "city", .text "ßa", .text "SSa"⟩],
        [⟨0, "city", .text "SSa", .text "Ssa"⟩]] := by
  refine ⟨rfl, .inl (by decide), ?_, ?_⟩
  · unfold HasFewCells
    decide
  · exact ⟨rfl, rfl, trivial⟩

end TableQuery
