import TableQuery.Proofs.Csv.Export
import TableQuery.Proofs.Numeral.ReadBack
import TableQuery.Proofs.Text.Ascii

/-! # Exporting what was read

Cells that come from comma-separated text are typed by their texts.  Typing the text of such a
cell gives the cell again, but that zero loses its sign, so rows that were read, exported and
read again stay what they were.
-/

namespace TableQuery

/-! ## Cells -/

namespace Cell

/-- The cell that is left of a cell in a text, which does not keep the sign of zero. -/
def withoutZeroSign : Cell → Cell
  | .number x => .number (Numeral.withoutZeroSign x)
  | cell => cell

theorem infer_cases (raw : List Char) :
    infer raw = .null ∨ (∃ b, infer raw = .bool b) ∨
      (∃ x, infer raw = .number x ∧ x.isFinite = true) ∨ infer raw = .text (String.ofList raw) := by
  simp only [infer]
  split
  · exact .inl rfl
  · split
    · exact .inr (.inl ⟨true, rfl⟩)
    · split
      · exact .inr (.inl ⟨false, rfl⟩)
      · split
        · split
          · next x _ finite => exact .inr (.inr (.inl ⟨x, rfl, finite⟩))
          · exact .inr (.inr (.inr rfl))
        · exact .inr (.inr (.inr rfl))

end Cell

namespace Numeral

variable {x : Float}

theorem eqIgnoringAsciiCase_text (finite : x.isFinite = true) (first : Char) {word : List Char}
    (letter : first.toLower.isLower = true) :
    Text.eqIgnoringAsciiCase (text x).toList (first :: word) = false := by
  obtain ⟨c, rest, isCons, begins⟩ := text_head finite
  rw [Text.eqIgnoringAsciiCase, isCons, beq_eq_false_iff_ne]
  intro same
  rw [List.map_cons, List.map_cons, List.cons.injEq] at same
  have lowered : c.toLower = c := by
    rcases begins with digit | rfl
    · exact (Text.isLowered_of_isDigit digit).2
    · rfl
  rw [← same.1, lowered] at letter
  rcases begins with digit | rfl
  · rw [Text.not_isLower_of_isDigit digit] at letter
    cases letter
  · cases letter

theorem isFinite_withoutZeroSign (finite : x.isFinite = true) :
    (withoutZeroSign x).isFinite = true := by
  rw [withoutZeroSign]
  split
  · rfl
  · exact finite

theorem infer_text (finite : x.isFinite = true) :
    Cell.infer (text x).toList = .number (withoutZeroSign x) := by
  have nonempty : (text x).toList.isEmpty = false := by
    obtain ⟨c, rest, isCons, -⟩ := text_head finite
    rw [isCons]
    rfl
  rw [Cell.infer, trim_text finite]
  simp only [nonempty, eqIgnoringAsciiCase_text finite 't' rfl,
    eqIgnoringAsciiCase_text finite 'f' rfl, decimal?_text finite,
    isFinite_withoutZeroSign finite, Bool.false_eq_true, if_false, if_true]

end Numeral

/-! ## Rows -/

namespace Row

/-- Does the cell come from a field of comma-separated text, or from a missing one? -/
def IsRead (cell : Cell) : Prop := cell = .null ∨ ∃ raw, cell = Cell.infer raw

/-- The cell of a record at a place, empty if the record ends before it. -/
def fieldAt (record : List (List Char)) (place : Nat) : Cell :=
  (record[place]?.map Cell.infer).getD .null

theorem fieldsFrom_cons (h : String) (headers : List String) (record : List (List Char)) :
    ofRecord.fieldsFrom (h :: headers) record =
      (h, fieldAt record 0) :: ofRecord.fieldsFrom headers record.tail := by
  cases record <;> rfl

theorem fieldsFrom_drop (headers : List String) (record : List (List Char)) (place : Nat) :
    ofRecord.fieldsFrom headers (record.drop place) =
      (headers.zipIdx place).map fun header => (header.1, fieldAt record header.2) := by
  induction headers generalizing place with
  | nil => rfl
  | cons h headers inductionHypothesis =>
    have isFirst : fieldAt (record.drop place) 0 = fieldAt record place := by
      rw [fieldAt, List.getElem?_drop, Nat.add_zero, fieldAt]
    rw [fieldsFrom_cons, isFirst, List.tail_drop, inductionHypothesis, List.zipIdx_cons,
      List.map_cons]

theorem fieldsFrom_eq (headers : List String) (record : List (List Char)) :
    ofRecord.fieldsFrom headers record =
      headers.zipIdx.map fun header => (header.1, fieldAt record header.2) :=
  fieldsFrom_drop headers record 0

theorem keys_fieldsFrom (headers : List String) (record : List (List Char)) :
    Assoc.keys (ofRecord.fieldsFrom headers record) = headers := by
  rw [fieldsFrom_eq, Assoc.keys, List.map_map]
  exact List.zipIdx_map_fst 0 headers

theorem isRead_fieldAt (record : List (List Char)) (place : Nat) :
    IsRead (fieldAt record place) := by
  rw [fieldAt]
  cases record[place]? with
  | none => exact .inl rfl
  | some field => exact .inr ⟨field, rfl⟩

theorem isRead_of_mem_fieldsFrom {headers : List String} {record : List (List Char)}
    {field : String × Cell} (member : field ∈ ofRecord.fieldsFrom headers record) :
    IsRead field.2 := by
  rw [fieldsFrom_eq] at member
  obtain ⟨header, -, rfl⟩ := List.mem_map.1 member
  exact isRead_fieldAt record header.2

theorem fields_ofRecord {headers : List String} (distinct : headers.Nodup)
    (record : List (List Char)) :
    (ofRecord headers record).fields = ofRecord.fieldsFrom headers record :=
  Assoc.ofList_eq_self ((keys_fieldsFrom headers record).symm ▸ distinct)

end Row

namespace Export

theorem infer_fieldText {cell : Cell} (isRead : Row.IsRead cell) :
    Cell.infer (fieldText (some cell)).toList = cell.withoutZeroSign := by
  rcases isRead with rfl | ⟨raw, rfl⟩
  · rfl
  rcases Cell.infer_cases raw with isNull | ⟨b, isBool⟩ | ⟨x, isNumber, finite⟩ | isText
  · rw [isNull]
    rfl
  · rw [isBool]
    cases b <;> rfl
  · rw [isNumber]
    exact Numeral.infer_text finite
  · have isRaw : (fieldText (some (Cell.infer raw))).toList = raw := by
      rw [isText]
      exact String.toList_ofList
    rw [isRaw, isText]
    rfl

variable {columns : List Column}

/-- A row that was read, written under its headers and read again has its fields. -/
theorem readBack_ofRecord {headers : List String} (distinct : headers.Nodup)
    (keys : columns.map (·.key) = headers) (labels : columns.map (·.label) = headers)
    (record : List (List Char)) :
    readBack columns (Row.ofRecord headers record) =
      (Row.ofRecord headers record).fields.map fun field =>
        (field.1, field.2.withoutZeroSign) := by
  have sameName : ∀ c ∈ columns, c.label = c.key :=
    List.map_inj_left.1 (labels.trans keys.symm)
  have isFields := Row.fields_ofRecord distinct record
  have keys_eq : Assoc.keys (Row.ofRecord headers record).fields = columns.map (·.key) := by
    rw [isFields, Row.keys_fieldsFrom, keys]
  -- The keys of the columns are those of the row, in its order, so its cells are looked up
  -- one after another.
  calc readBack columns (Row.ofRecord headers record)
      = (columns.map (·.key)).map fun key => (key, Cell.infer
          (fieldText (Assoc.get? key (Row.ofRecord headers record).fields)).toList) := by
        rw [List.map_map]
        refine List.map_congr_left fun c member => ?_
        rw [sameName c member]
        rfl
    _ = (Row.ofRecord headers record).fields.map fun field =>
          (field.1, Cell.infer (fieldText (some field.2)).toList) := by
        rw [← keys_eq]
        exact Assoc.map_keys_get? (Row.ofRecord headers record).keysDistinct
          fun key cell => (key, Cell.infer (fieldText cell).toList)
    _ = (Row.ofRecord headers record).fields.map fun field =>
          (field.1, field.2.withoutZeroSign) := by
        refine List.map_congr_left fun field member => ?_
        rw [isFields] at member
        rw [infer_fieldText (Row.isRead_of_mem_fieldsFrom member)]

end Export

/-! ## Datasets -/

def Dataset.headers (bytes : ByteArray) : List String :=
  match Csv.records? bytes.data.toList with
  | some (header :: _) => header.map String.ofList
  | _ => []

theorem Dataset.headers_toUTF8 (text : String) :
    Dataset.headers text.toUTF8 = ((Csv.records text.toList).headD []).map String.ofList := by
  rw [Dataset.headers, Dataset.toList_toUTF8, Csv.records?_bytes]
  cases Csv.records text.toList <;> rfl

def Dataset.records (bytes : ByteArray) : List (List (List Char)) :=
  match Csv.records? bytes.data.toList with
  | some (_ :: records) => records
  | _ => []

theorem Dataset.records_toUTF8 (text : String) :
    Dataset.records text.toUTF8 = (Csv.records text.toList).tail := by
  rw [Dataset.records, Dataset.toList_toUTF8, Csv.records?_bytes]
  cases Csv.records text.toList <;> rfl

theorem Dataset.eq_map_ofRecord_of_ofBytes {bytes : ByteArray} {rows : List Row}
    (loaded : Dataset.ofBytes .csv bytes = .ok rows) :
    rows = (Dataset.records bytes).map (Row.ofRecord (Dataset.headers bytes)) := by
  rw [Dataset.ofBytes] at loaded
  rw [Dataset.headers, Dataset.records]
  cases isRead : Csv.records? bytes.data.toList with
  | none =>
    rw [isRead] at loaded
    cases loaded
  | some records =>
    rw [isRead] at loaded
    obtain rfl := Except.ok.inj loaded
    cases records <;> rfl

theorem Dataset.exists_records_of_ofBytes {bytes : ByteArray} {rows : List Row}
    (loaded : Dataset.ofBytes .csv bytes = .ok rows) :
    ∃ records : List (List (List Char)),
      rows = records.map (Row.ofRecord (Dataset.headers bytes)) :=
  ⟨_, Dataset.eq_map_ofRecord_of_ofBytes loaded⟩

/-- Rows that were read from comma-separated text can be written under their headers and read
    again, and are what they were but for the sign of zero. -/
theorem Export.ofBytes_text_csv_of_ofBytes {bytes : ByteArray} {rows : List Row}
    {columns : List Column} (loaded : Dataset.ofBytes .csv bytes = .ok rows)
    (someRow : rows ≠ []) (someHeader : Dataset.headers bytes ≠ [])
    (distinct : (Dataset.headers bytes).Nodup)
    (noMark : ∀ h ∈ (Dataset.headers bytes).head?, h.toList.head? ≠ some Csv.byteOrderMark)
    (keys : columns.map (·.key) = Dataset.headers bytes)
    (labels : columns.map (·.label) = Dataset.headers bytes) :
    ∃ back, Dataset.ofBytes .csv (text .csv columns rows).toUTF8 = .ok back ∧
      back.map (·.fields) =
        rows.map fun row => row.fields.map fun field => (field.1, field.2.withoutZeroSign) := by
  obtain ⟨records, isRows⟩ := Dataset.exists_records_of_ofBytes loaded
  have someColumn : columns ≠ [] := by
    rintro rfl
    exact someHeader labels.symm
  have noMarkAhead : ∀ c ∈ columns.head?, c.label.toList.head? ≠ some Csv.byteOrderMark := by
    intro c isFirst
    refine noMark c.label ?_
    rw [← labels, List.head?_map, Option.mem_def.1 isFirst]
    rfl
  refine ⟨Dataset.ofCsvChars (toCsv columns rows), ?_, ?_⟩
  · rw [Dataset.ofBytes_toUTF8, Dataset.ofText, text, String.toList_ofList]
  · rw [fields_ofCsvChars_toCsv someRow someColumn (labels ▸ distinct) noMarkAhead, isRows,
      List.map_map, List.map_map]
    exact List.map_congr_left fun record _ => readBack_ofRecord distinct keys labels record

/-- A number with a needless digit, a negative zero and a text with a blank. -/
theorem Export.ofBytes_text_csv_of_typed_fields :
    ∃ rows back, Dataset.ofBytes .csv "a,b\n1.50,-0\n x,true\n".toUTF8 = .ok rows ∧
      Dataset.ofBytes .csv (text .csv [⟨"a", .string, "a", []⟩, ⟨"b", .string, "b", []⟩]
        rows).toUTF8 = .ok back ∧
      back.map (·.fields) =
        rows.map fun row => row.fields.map fun field => (field.1, field.2.withoutZeroSign) := by
  have loaded := Dataset.ofBytes_toUTF8 .csv "a,b\n1.50,-0\n x,true\n"
  have isHeaders : Dataset.headers "a,b\n1.50,-0\n x,true\n".toUTF8 = ["a", "b"] := by
    rw [Dataset.headers_toUTF8]
    decide
  have keys : [Column.mk "a" .string "a" [], ⟨"b", .string, "b", []⟩].map (·.key) =
      Dataset.headers "a,b\n1.50,-0\n x,true\n".toUTF8 := isHeaders.symm
  have labels : [Column.mk "a" .string "a" [], ⟨"b", .string, "b", []⟩].map (·.label) =
      Dataset.headers "a,b\n1.50,-0\n x,true\n".toUTF8 := isHeaders.symm
  have read := Export.ofBytes_text_csv_of_ofBytes loaded (by decide)
    (isHeaders ▸ List.cons_ne_nil _ _) (isHeaders ▸ by decide) (isHeaders ▸ by decide) keys labels
  exact ⟨_, read.choose, loaded, read.choose_spec⟩

end TableQuery
