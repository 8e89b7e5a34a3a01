import TableQuery.Export
import TableQuery.Proofs.Csv.RoundTrip

/-! # Reading an export

Rows that were written under columns with different labels are read back with the same
number of rows in the same order, each with a field for every column.
-/

namespace TableQuery

theorem Row.fieldsFrom_map {α : Type} (items : List α) (header : α → String)
    (field : α → List Char) :
    Row.ofRecord.fieldsFrom (items.map header) (items.map field) =
      items.map fun a => (header a, Cell.infer (field a)) := by
  induction items with
  | nil => rfl
  | cons a items inductionHypothesis =>
    rw [List.map_cons, List.map_cons, Row.ofRecord.fieldsFrom, inductionHypothesis, List.map_cons]

namespace Export

variable {columns : List Column} {rows : List Row}

/-- The fields that a row has after it was written under columns and read. -/
def readBack (columns : List Column) (row : Row) : List (String × Cell) :=
  columns.map fun c => (c.label, Cell.infer (fieldText (row.get? c.key)).toList)

theorem fields_ofRecord_record (distinct : (columns.map (·.label)).Nodup) (row : Row) :
    (Row.ofRecord (columns.map (·.label)) (record columns row)).fields = readBack columns row := by
  have keys_eq : Assoc.keys (readBack columns row) = columns.map (·.label) := by
    simp [readBack, Assoc.keys]
  show Assoc.ofList _ = _
  rw [record, Row.fieldsFrom_map]
  exact Assoc.ofList_eq_self (keys_eq ▸ distinct)

theorem headers_header : (header columns).map String.ofList = columns.map (·.label) := by
  simp [header]

theorem toCsv_of_ne_nil (columns : List Column) (someRow : rows ≠ []) :
    toCsv columns rows = Csv.render (header columns :: rows.map (record columns)) := by
  cases rows with
  | nil => exact absurd rfl someRow
  | cons row rest => rfl

/-- Rows under columns are written as records that the reader gives back. -/
theorem records_toCsv (someRow : rows ≠ []) (someColumn : columns ≠ [])
    (noMark : ∀ c ∈ columns.head?, c.label.toList.head? ≠ some Csv.byteOrderMark) :
    Csv.records (toCsv columns rows) = header columns :: rows.map (record columns) := by
  rw [toCsv_of_ne_nil columns someRow]
  apply Csv.records_render
  · -- No record is without fields, since there is a column.
    intro r member
    rcases List.mem_cons.1 member with rfl | isRecord
    · simpa [header] using someColumn
    · obtain ⟨row, -, rfl⟩ := List.mem_map.1 isRecord
      simpa [record] using someColumn
  · intro f isFirst
    cases columns with
    | nil => cases isFirst
    | cons c columns =>
      cases isFirst
      exact noMark c rfl

theorem fields_ofCsvChars_toCsv (someRow : rows ≠ []) (someColumn : columns ≠ [])
    (distinct : (columns.map (·.label)).Nodup)
    (noMark : ∀ c ∈ columns.head?, c.label.toList.head? ≠ some Csv.byteOrderMark) :
    (Dataset.ofCsvChars (toCsv columns rows)).map (·.fields) = rows.map (readBack columns) := by
  rw [Dataset.ofCsvChars, records_toCsv someRow someColumn noMark, Dataset.ofRecords]
  simp only [headers_header, List.map_map]
  refine List.map_congr_left fun row _ => ?_
  exact fields_ofRecord_record distinct row

/-- Rows that were exported as comma-separated text can be read, and each comes back with the
    cells that the texts under its columns stand for. -/
theorem ofBytes_text_csv (someRow : rows ≠ []) (someColumn : columns ≠ [])
    (distinct : (columns.map (·.label)).Nodup)
    (noMark : ∀ c ∈ columns.head?, c.label.toList.head? ≠ some Csv.byteOrderMark) :
    ∃ back, Dataset.ofBytes .csv (text .csv columns rows).toUTF8 = .ok back ∧
      back.map (·.fields) = rows.map fun row => columns.map fun c =>
        (c.label, Cell.infer (fieldText (row.get? c.key)).toList) := by
  refine ⟨Dataset.ofCsvChars (toCsv columns rows), ?_,
    fields_ofCsvChars_toCsv someRow someColumn distinct noMark⟩
  rw [Dataset.ofBytes_toUTF8, Dataset.ofText, text, String.toList_ofList]

/-- A label with a comma, an empty label, and a text with a blank, a quote and a line feed. -/
theorem ofBytes_text_csv_quoted :
    ∃ back, Dataset.ofBytes .csv
        (text .csv [⟨"k", .string, "a, b", []⟩, ⟨"n", .string, "", []⟩]
          [Row.ofList [("k", .text " x\"y\n")]]).toUTF8 = .ok back ∧
      back.map (·.fields) = [[("a, b", .text " x\"y\n"), ("", .null)]] :=
  ofBytes_text_csv (List.cons_ne_nil _ _) (List.cons_ne_nil _ _) (by decide)
    (by rintro c ⟨⟩; decide)

end Export

end TableQuery
