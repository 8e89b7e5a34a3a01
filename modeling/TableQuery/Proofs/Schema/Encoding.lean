import TableQuery.Proofs.Plan.Encoding
import TableQuery.Schema.Encoding

/-! # Schemas that are read back

Declarations are restored exactly from what they are encoded as, and so are columns, rows and
schemas whose numbers are whole and without gaps, but for the sign of a zero.  The keys of a row
differ, so its fields are written one after another without replacing any.
-/

namespace TableQuery

open Json

variable {depth : Nat}

/-- Rows are equal if they have the same keys in the same order and equal cells under them. -/
instance : BEq Row := ⟨fun a b => a.fields == b.fields⟩

deriving instance BEq for Schema

theorem ColumnType.lookup_name (type : ColumnType) : byName.lookup type.name = some type := by
  cases type <;> decide

/-! ## Declarations -/

namespace ColumnDecl

theorem toJson_eq (d : ColumnDecl) : d.toJson = .obj (membersOf [("key", some (.str d.key)),
    ("type", some (orNull (d.type.map fun type => .str type.name))),
    ("label", some (orNull (d.label.map .str)))]) := rfl

theorem writesCompact_toJson (d : ColumnDecl) : WritesCompact (depth + 1) d.toJson := by
  obtain ⟨key, type, label⟩ := d
  rw [toJson_eq]
  refine .membersOf ?_
  cases type <;> cases label <;> simp [orNull, WritesCompact.str, WritesCompact.null]

theorem decode?_toJson (d : ColumnDecl) : decode? d.toJson = some d := by
  obtain ⟨key, type, label⟩ := d
  cases type <;> cases label <;>
    simp [decode?, toJson_eq, fields?_membersOf, nullable?, orNull, str?, choice?,
      ColumnType.lookup_name]

end ColumnDecl

/-! ## Rows -/

namespace Row

theorem keys_eq_of_beq {fields others : List (String × Cell)} (same : (fields == others) = true) :
    Assoc.keys fields = Assoc.keys others := by
  induction fields generalizing others with
  | nil =>
    cases others with
    | nil => rfl
    | cons _ _ => cases same
  | cons field fields inductionHypothesis =>
    cases others with
    | nil => cases same
    | cons other others =>
      obtain ⟨first, later⟩ := Bool.and_eq_true_iff.1 same
      obtain ⟨sameKey, -⟩ := Bool.and_eq_true_iff.1 first
      rw [Assoc.keys_cons, Assoc.keys_cons, eq_of_beq sameKey, inductionHypothesis later]

/-- The cells of a row. -/
def cells (row : Row) : List Cell := row.fields.map Prod.snd

variable {row : Row}

theorem writesCompact_toJson (areIntegers : ∀ cell ∈ row.cells, cell.IsInteger) :
    WritesCompact (depth + 1) row.toJson := by
  refine .obj fun m member => ?_
  obtain ⟨field, isField, rfl⟩ := List.mem_map.1 member
  exact Cell.writesCompact_toJson (areIntegers _ (List.mem_map_of_mem isField))

theorem restores_toJson (areIntegers : ∀ cell ∈ row.cells, cell.IsInteger) :
    Restores decode? row.toJson row := by
  obtain ⟨fields, areFields, same⟩ : Restores
      (fun members : List (String × Json) => members.mapM fun m =>
        (Cell.decode? m.2).map fun cell => (m.1, cell))
      (row.fields.map fun field => (field.1, field.2.toJson)) row.fields := by
    refine .mapM fun field isField => ?_
    obtain ⟨cell, isCell, same⟩ :=
      Cell.restores_toJson (areIntegers _ (List.mem_map_of_mem isField))
    refine ⟨(field.1, cell), ?_, ?_⟩
    · simp only [isCell, Option.map_some]
    · exact Bool.and_eq_true_iff.2 ⟨BEq.rfl, same⟩
  -- The keys are those of the row, so they differ and no field replaces another.
  have distinct : (Assoc.keys fields).Nodup := keys_eq_of_beq same ▸ row.keysDistinct
  refine ⟨ofList fields, ?_, ?_⟩
  · exact congrArg (Option.map ofList) areFields
  · show (Assoc.ofList fields == row.fields) = true
    rwa [Assoc.ofList_eq_self distinct]

end Row

/-! ## Columns -/

namespace Column

variable {c : Column}

theorem toJson_eq (c : Column) : c.toJson = .obj (membersOf [("key", some (.str c.key)),
    ("type", some (.str c.type.name)), ("label", some (.str c.label)),
    ("examples", some (.arr (c.examples.map Cell.toJson)))]) := rfl

theorem writesCompact_toJson (areIntegers : ∀ cell ∈ c.examples, cell.IsInteger) :
    WritesCompact (depth + 2) c.toJson := by
  have examples : WritesCompact (depth + 1) (.arr (c.examples.map Cell.toJson)) :=
    .list fun cell isExample => Cell.writesCompact_toJson (areIntegers cell isExample)
  rw [toJson_eq]
  refine .membersOf ?_
  simp [WritesCompact.str, examples]

theorem restores_toJson (areIntegers : ∀ cell ∈ c.examples, cell.IsInteger) :
    Restores decode? c.toJson c := by
  obtain ⟨examples, areExamples, same⟩ := Restores.list fun cell member =>
    Cell.restores_toJson (areIntegers cell member)
  refine ⟨⟨c.key, c.type, c.label, examples⟩, ?_, ?_⟩
  · simp [decode?, toJson_eq, fields?_membersOf, str?, choice?,
      ColumnType.lookup_name, areExamples]
  · show (c.key == c.key && (c.type == c.type && (c.label == c.label &&
      examples == c.examples))) = true
    simp [same]

end Column

/-! ## Schemas -/

namespace Schema

variable {s : Schema}

/-- The cells of the examples and of the sample rows. -/
def cells (s : Schema) : List Cell :=
  s.columns.flatMap (·.examples) ++ s.sampleRows.flatMap Row.cells

theorem toJson_eq (s : Schema) : s.toJson = .obj (membersOf [
    ("columns", some (.arr (s.columns.map Column.toJson))), ("rowCount", some (.int s.rowCount)),
    ("sampleRows", some (.arr (s.sampleRows.map Row.toJson)))]) := rfl

theorem mem_cells_of_column {c : Column} (isColumn : c ∈ s.columns) {cell : Cell}
    (isExample : cell ∈ c.examples) : cell ∈ s.cells :=
  List.mem_append_left _ (List.mem_flatMap.2 ⟨c, isColumn, isExample⟩)

theorem mem_cells_of_row {row : Row} (isRow : row ∈ s.sampleRows) {cell : Cell}
    (isCell : cell ∈ row.cells) : cell ∈ s.cells :=
  List.mem_append_right _ (List.mem_flatMap.2 ⟨row, isRow, isCell⟩)

theorem writesCompact_toJson (areIntegers : ∀ cell ∈ s.cells, cell.IsInteger)
    (small : s.rowCount < UInt64.size) : WritesCompact (depth + 4) s.toJson := by
  have columns : WritesCompact (depth + 3) (.arr (s.columns.map Column.toJson)) :=
    .list fun c isColumn => Column.writesCompact_toJson fun cell isExample =>
      areIntegers cell (mem_cells_of_column isColumn isExample)
  have rows : WritesCompact (depth + 3) (.arr (s.sampleRows.map Row.toJson)) :=
    .list fun row isRow => Row.writesCompact_toJson fun cell isCell =>
      areIntegers cell (mem_cells_of_row isRow isCell)
  rw [toJson_eq]
  refine .membersOf ?_
  simp [columns, rows, WritesCompact.count small]

theorem restores_toJson (areIntegers : ∀ cell ∈ s.cells, cell.IsInteger)
    (small : s.rowCount < UInt64.size) : Restores decode? s.toJson s := by
  obtain ⟨columns, areColumns, sameColumns⟩ := Restores.list fun c isColumn =>
    Column.restores_toJson fun cell isExample =>
      areIntegers cell (mem_cells_of_column isColumn isExample)
  obtain ⟨rows, areRows, sameRows⟩ := Restores.list fun row isRow =>
    Row.restores_toJson fun cell isCell => areIntegers cell (mem_cells_of_row isRow isCell)
  refine ⟨⟨columns, s.rowCount, rows⟩, ?_, ?_⟩
  · simp [decode?, toJson_eq, fields?_membersOf, word?_count small, areColumns, areRows]
  · show (columns == s.columns && (s.rowCount == s.rowCount && rows == s.sampleRows)) = true
    simp [sameColumns, sameRows]

end Schema

end TableQuery
