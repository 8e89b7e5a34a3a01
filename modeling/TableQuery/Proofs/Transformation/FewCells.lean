import TableQuery.Proofs.Transformation.Column

/-! # Columns with few cells

Where a column has no more distinct cells than the sample holds, the sample stands for every row.
Then a transformation that does not tell cells apart that are the same maps the whole column, and
the column it leaves behind has no more distinct cells than before.
-/

namespace TableQuery

/-- Are the distinct cells of the column no more than the sample holds? -/
def HasFewCells (rows : List Row) (column : String) : Prop :=
  ((rows.map (·.cell column)).eraseDupsBy Cell.same).length ≤ 50

/-- Does the function take cells that are the same to cells that are the same? -/
def Respectful (f : Cell → Cell) : Prop :=
  ∀ a b : Cell, a.same b = true → (f a).same (f b) = true

theorem Respectful.same_congr {f : Cell → Cell} (respectful : Respectful f) {a b : Cell}
    (same : a.same b = true) : (f a).same a = (f b).same b := by
  rw [Bool.eq_iff_iff, Cell.same_iff, Cell.same_iff, Cell.same_iff.1 same,
    Cell.same_iff.1 (respectful a b same)]

/-! ## The sample of the column -/

theorem exists_mem_eraseDupsBy_same {a : Cell} :
    ∀ {items : List Cell}, a ∈ items → ∃ r ∈ items.eraseDupsBy Cell.same, r.same a = true
  | first :: rest, member => by
    rw [List.eraseDupsBy_cons]
    rcases List.mem_cons.1 member with rfl | isLater
    · exact ⟨a, List.mem_cons_self, a.same_refl⟩
    cases known : a.same first with
    | true => exact ⟨first, List.mem_cons_self, Cell.same_symm known⟩
    | false =>
      have isLeft : a ∈ rest.filter fun b => b.same first = false :=
        List.mem_filter.2 ⟨isLater, decide_eq_true known⟩
      obtain ⟨r, isKept, same⟩ := exists_mem_eraseDupsBy_same isLeft
      exact ⟨r, List.mem_cons_of_mem _ isKept, same⟩
termination_by items => items.length
decreasing_by exact Nat.lt_succ_of_le (List.length_filter_le _ _)

variable {rows : List Row} {column : String} {f : Cell → Cell}

theorem HasFewCells.sampleOf_eq (few : HasFewCells rows column) :
    sampleOf rows column = (rows.map (·.cell column)).eraseDupsBy Cell.same :=
  List.take_of_length_le few

theorem HasFewCells.exists_standsFor (few : HasFewCells rows column) {row : Row}
    (isRow : row ∈ rows) : ∃ r, StandsFor rows column r row := by
  obtain ⟨r, isKept, same⟩ := exists_mem_eraseDupsBy_same (List.mem_map_of_mem isRow)
  exact ⟨r, few.sampleOf_eq ▸ isKept, same⟩

/-! ## The whole column -/

theorem Proposes.mem_rowIndex_iff {changes : List Change} (few : HasFewCells rows column)
    (respectful : Respectful f) (proposes : Proposes rows column f changes) (i : Nat) :
    i ∈ changes.map (·.rowIndex) ↔
      ∃ row, rows[i]? = some row ∧ (f (row.cell column)).same (row.cell column) = false := by
  -- What stands for a row is the same as its cell, so it becomes the same.
  have alike {row : Row} {r : Cell} (stands : StandsFor rows column r row) :
      (f r).same (row.cell column) = (f (row.cell column)).same (row.cell column) := by
    rw [Bool.eq_iff_iff, Cell.same_iff, Cell.same_iff,
      Cell.same_iff.1 (respectful _ _ stands.same)]
  rw [List.mem_map]
  constructor
  · rintro ⟨change, member, rfl⟩
    obtain ⟨row, r, isRow, stands, differs, -⟩ := (proposes.mem_iff change).1 member
    exact ⟨row, isRow, alike stands ▸ differs⟩
  · rintro ⟨row, isRow, differs⟩
    obtain ⟨r, stands⟩ := few.exists_standsFor (List.mem_of_getElem? isRow)
    exact ⟨⟨i, column, row.cell column, f r⟩,
      (proposes.mem_iff _).2 ⟨row, r, isRow, stands, (alike stands).trans differs, rfl⟩, rfl⟩

namespace Maps

variable {mapped : List Row}

theorem cell_same (maps : Maps rows column f mapped) (few : HasFewCells rows column)
    (respectful : Respectful f) {i : Nat} {row : Row} (isRow : rows[i]? = some row) :
    ∃ row', mapped[i]? = some row' ∧ (row'.cell column).same (f (row.cell column)) = true := by
  obtain ⟨r, stands⟩ := few.exists_standsFor (List.mem_of_getElem? isRow)
  obtain ⟨row', isRow', same, -⟩ := maps.sampled i row r isRow stands
  exact ⟨row', isRow', Cell.same_trans same (respectful _ _ stands.same)⟩

theorem exists_row (maps : Maps rows column f mapped) (few : HasFewCells rows column)
    (respectful : Respectful f) {i : Nat} {row' : Row} (isRow' : mapped[i]? = some row') :
    ∃ row, rows[i]? = some row ∧ (row'.cell column).same (f (row.cell column)) = true := by
  obtain ⟨within, -⟩ := List.getElem?_eq_some_iff.1 isRow'
  rw [maps.length_eq] at within
  have isRow := List.getElem?_eq_getElem within
  obtain ⟨other, isOther, same⟩ := maps.cell_same few respectful isRow
  obtain rfl : other = row' := Option.some.inj (isOther.symm.trans isRow')
  exact ⟨_, isRow, same⟩

/-- The mapped column has no more distinct cells than the column before. -/
theorem hasFewCells (maps : Maps rows column f mapped) (few : HasFewCells rows column)
    (respectful : Respectful f) : HasFewCells mapped column := by
  let after := (mapped.map (·.cell column)).eraseDupsBy Cell.same
  have distinct : (after.map Cell.essence).Nodup := by
    refine List.pairwise_map.2 ((pairwise_eraseDupsBy Cell.same _).imp fun notSame isSame => ?_)
    rw [Cell.same_iff.2 isSame.symm] at notSame
    cases notSame
  have within : after.map Cell.essence ⊆ (sampleOf rows column).map fun r => (f r).essence := by
    intro essence member
    obtain ⟨cell, isLeft, rfl⟩ := List.mem_map.1 member
    obtain ⟨row', isRow', rfl⟩ := List.mem_map.1 (mem_of_mem_eraseDupsBy isLeft)
    obtain ⟨i, isAt⟩ := List.getElem?_of_mem isRow'
    obtain ⟨row, isRow, same⟩ := maps.exists_row few respectful isAt
    obtain ⟨r, stands⟩ := few.exists_standsFor (List.mem_of_getElem? isRow)
    have isEssence := (Cell.same_iff.1 same).trans
      (Cell.same_iff.1 (respectful _ _ stands.same)).symm
    exact List.mem_map.2 ⟨r, stands.sampled, isEssence.symm⟩
  have fewer := (distinct.subperm within).length_le
  rw [List.length_map, List.length_map] at fewer
  exact fewer.trans (List.length_take_le _ _)

end Maps

end TableQuery
