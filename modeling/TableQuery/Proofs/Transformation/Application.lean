import TableQuery.Proofs.Assoc.Keys
import TableQuery.Proofs.Transformation.Column

/-! # Changes applied to rows

Changes are applied one after another, in whatever order they come and however often they name the
same cell.  What a row becomes is told by the changes that name it: a cell is what the last change
of it says, and the columns that are new to the row come behind its own, in the order in which they
are named first.
-/

namespace TableQuery

/-- Is it a change of the cell in this row and column? -/
abbrev Change.Names (change : Change) (rowIndex : Nat) (column : String) : Prop :=
  change.rowIndex = rowIndex ∧ change.column = column

/-- The cell that the last change of this row and column says, if there is one. -/
def lastValue? (changes : List Change) (rowIndex : Nat) (column : String) : Option Cell :=
  (changes.filter (·.Names rowIndex column)).getLast?.map (·.newValue)

/-- The columns in which a row is changed, in the order in which they are named first. -/
def changedColumns (changes : List Change) (rowIndex : Nat) : List String :=
  ((changes.filter (·.rowIndex = rowIndex)).map (·.column)).eraseDups

/-- Is this what a row becomes by the changes? -/
structure Row.Becomes (changes : List Change) (rowIndex : Nat) (row changed : Row) : Prop where
  get?_eq : ∀ column,
    changed.get? column = (lastValue? changes rowIndex column).or (row.get? column)
  /-- Columns that are new to the row come behind its own. -/
  keys_eq : changed.keys = row.keys ++ (changedColumns changes rowIndex).filter (· ∉ row.keys)

/-! ## One row -/

theorem Row.written_concat (row : Row) (changes : List Change) (last : Change) :
    row.written (changes ++ [last]) =
      (row.written changes).insert last.column last.newValue := by
  rw [written, List.foldl_append]
  rfl

theorem Row.get?_written (row : Row) (changes : List Change) (column : String) :
    (row.written changes).get? column =
      ((changes.filter (·.column = column)).getLast?.map (·.newValue)).or (row.get? column) := by
  induction changes using List.reverseRecOn with
  | nil => rfl
  | append_singleton changes last inductionHypothesis =>
    rw [written_concat, get?_insert, inductionHypothesis, List.filter_append]
    by_cases here : last.column = column <;> simp [here]

theorem Row.keys_written (row : Row) (changes : List Change) :
    (row.written changes).keys =
      row.keys ++ (changes.map (·.column)).eraseDups.filter (· ∉ row.keys) := by
  induction changes using List.reverseRecOn with
  | nil => simp [written]
  | append_singleton changes last inductionHypothesis =>
    have isInsert : ((row.written changes).insert last.column last.newValue).keys =
        if last.column ∈ (row.written changes).keys then (row.written changes).keys
        else (row.written changes).keys ++ [last.column] :=
      Assoc.keys_insert _ _ _
    have isAppend : (changes ++ [last]).map (·.column) =
        changes.map (·.column) ++ [last.column] := List.map_append
    rw [written_concat, isInsert, inductionHypothesis, isAppend, eraseDups_concat]
    generalize (changes.map (·.column)).eraseDups = columns
    by_cases known : last.column ∈ columns <;> by_cases own : last.column ∈ row.keys <;>
      simp [own, known]

theorem Row.becomes_written (row : Row) (changes : List Change) (rowIndex : Nat) :
    Becomes changes rowIndex row (row.written (changes.filter (·.rowIndex = rowIndex))) := by
  constructor
  case get?_eq =>
    intro column
    rw [get?_written, List.filter_filter, lastValue?]
    congr 3
    refine List.filter_congr fun change _ => ?_
    simp [Bool.and_comm]
  case keys_eq => exact keys_written _ _

/-! ## All rows -/

theorem applyChanges_filter_lt (rows : List Row) (changes : List Change) :
    applyChanges rows (changes.filter (·.rowIndex < rows.length)) = applyChanges rows changes := by
  refine List.ext_getElem? fun i => ?_
  rw [getElem?_applyChanges, getElem?_applyChanges, List.filter_filter]
  cases isRow : rows[i]? with
  | none => rfl
  | some row =>
    obtain ⟨within, -⟩ := List.getElem?_eq_some_iff.1 isRow
    rw [Option.map_some, Option.map_some]
    congr 2
    refine List.filter_congr fun change _ => ?_
    by_cases here : change.rowIndex = i <;> simp [here, within]

/-- Changes that are applied, whatever they are and in whatever order they come, leave each row in
    its place; a row becomes what the changes that name it say, and changes that name no row do
    nothing. -/
theorem applyChanges_becomes (rows : List Row) (changes : List Change) :
    (applyChanges rows changes).length = rows.length ∧
      (∀ (i : Nat) row, rows[i]? = some row →
        ∃ changed, (applyChanges rows changes)[i]? = some changed ∧
          row.Becomes changes i changed) ∧
      applyChanges rows changes =
        applyChanges rows (changes.filter (·.rowIndex < rows.length)) := by
  refine ⟨length_applyChanges rows changes, fun i row isRow => ?_,
    (applyChanges_filter_lt rows changes).symm⟩
  refine ⟨_, ?_, row.becomes_written changes i⟩
  rw [getElem?_applyChanges, isRow]
  rfl

/-- Two new columns, one of which is changed again behind a row that does not exist. -/
theorem applyChanges_becomes_interleaved :
    let first : Row := ⟨[("name", .text "Acme"), ("tier", .null)], by decide⟩
    let rows : List Row := [first, Row.empty]
    let changes : List Change := [⟨0, "note", .null, .text "new"⟩, ⟨1, "tier", .null, .bool true⟩,
      ⟨0, "tier", .null, .text "gold"⟩, ⟨0, "city", .null, .text "Rome"⟩,
      ⟨2, "note", .null, .text "ghost"⟩, ⟨0, "note", .null, .text "old"⟩]
    rows[0]? = some first ∧ (applyChanges rows changes).length = 2 ∧
      ∃ changed, (applyChanges rows changes)[0]? = some changed ∧
        changed.keys = ["name", "tier", "note", "city"] ∧
        changed.get? "name" = some (.text "Acme") ∧ changed.get? "tier" = some (.text "gold") ∧
        changed.get? "note" = some (.text "old") ∧ changed.get? "other" = none := by
  intro first rows changes
  obtain ⟨length_eq, becomes, -⟩ := applyChanges_becomes rows changes
  obtain ⟨changed, isChanged, isRow⟩ := becomes 0 first rfl
  exact ⟨rfl, length_eq, changed, isChanged, isRow.keys_eq.trans (by decide), isRow.get?_eq "name",
    isRow.get?_eq "tier", isRow.get?_eq "note", isRow.get?_eq "other"⟩

end TableQuery
