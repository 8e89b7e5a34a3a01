import TableQuery.Proofs.Csv.Export
import TableQuery.Proofs.Decimal.Whole
import TableQuery.Proofs.Json.Printing

/-! # Reading an exported array

Rows that were written as an array of objects are read back with all their keys and cells, in
their order.  Of the numbers this holds of the whole ones without gaps; a double that is not
finite leaves an empty cell.
-/

namespace TableQuery

/-! ## Cells -/

namespace Cell

/-- Is the cell no number, or one that is whole and without gaps or not finite? -/
def IsWhole (cell : Cell) : Prop :=
  ∀ x, cell = .number x → x.isFinite = true →
    ∃ n : Int, n.natAbs ≤ wholeLimit ∧ Double.value x = n

theorem isWhole_of_number?_eq_none {cell : Cell} (noNumber : cell.number? = none) :
    IsWhole cell := by
  rintro x rfl
  cases noNumber

theorem isWhole_of_whole? {x : Float} {n : Int} (whole : whole? x = some n) :
    IsWhole (.number x) := by
  rintro y ⟨⟩ -
  exact ⟨n, Double.value_of_whole? whole⟩

theorem isWhole_of_infinite {x : Float} (infinite : x.isFinite = false) :
    IsWhole (.number x) := by
  rintro y ⟨⟩ finite
  rw [infinite] at finite
  cases finite

/-- The cell that is left of a cell in a document, which keeps neither the sign of zero nor a
    double that is not finite. -/
def exchanged : Cell → Cell
  | .number x => if x.isFinite then .number (Numeral.withoutZeroSign x) else .null
  | cell => cell

/-- The value that the text of a cell is read as. -/
def readJson : Cell → Json
  | .number x => match whole? x with
    | some n => .int n
    | none => .null
  | cell => cell.toJson

variable {cell : Cell}

theorem ofJson_readJson (isWhole : IsWhole cell) : ofJson cell.readJson = cell.exchanged := by
  cases cell with
  | number x =>
    rw [exchanged]
    cases finite : x.isFinite with
    | true =>
      obtain ⟨n, small, isValue⟩ := isWhole x rfl finite
      simp only [readJson, Double.whole?_of_value finite isValue small, ofJson, if_true,
        Double.toFloat_of_value finite isValue]
    | false => simp [readJson, Double.whole?_of_infinite finite, ofJson]
  | _ => rfl

theorem render_of_infinite {x : Float} (infinite : x.isFinite = false) :
    Json.floatLayout.render x = ['n', 'u', 'l', 'l'] := by
  have above := Double.infinityBits_le_magnitude infinite
  show Json.floatLayout.renderBits (Decimal.signBits ≤ x.toBits.toNat) (Double.magnitude x) = _
  rw [Layout.renderBits]
  split
  · rfl
  · rw [if_pos (by omega)]
    split <;> rfl

theorem writes_toJson (isWhole : IsWhole cell) (level : Nat) {depth : Nat} :
    Json.Writes depth cell.readJson (Json.prettyChars level cell.toJson) := by
  cases cell with
  | null => exact .null
  | bool b => exact .bool b
  | text s => exact .str s
  | number x =>
    cases finite : x.isFinite with
    | true =>
      obtain ⟨n, small, isValue⟩ := isWhole x rfl finite
      have kept : Json.IsKept n := by
        rw [wholeLimit] at small
        simp only [Json.IsKept, Json.magnitudeLimit, Json.significandLimit, UInt64.size]
        omega
      simp only [readJson, toJson, Double.whole?_of_value finite isValue small]
      exact .int kept
    | false =>
      simp only [readJson, toJson, Double.whole?_of_infinite finite, Json.prettyChars,
        Json.compactChars, render_of_infinite finite]
      exact .null

end Cell

/-! ## Rows -/

namespace Export

variable {rows : List Row}

/-- The value that the text of a row is read as. -/
def readJson (row : Row) : Json := .obj (row.fields.map fun field => (field.1, field.2.readJson))

theorem writes_toJson
    (isWhole : ∀ row ∈ rows, ∀ field ∈ row.fields, field.2.IsWhole) :
    Json.Writes 2 (.arr (rows.map readJson)) (Json.prettyChars 0 (toJson rows)) := by
  refine Json.writes_prettyChars_arr 0 Row.toJson readJson rows fun row isRow => ?_
  refine Json.writes_prettyChars_obj 1 Prod.fst (fun field => field.2.toJson)
    (fun field => field.2.readJson) row.fields fun field isField => ?_
  exact Cell.writes_toJson (isWhole row isRow field isField) 2

theorem ofJson?_readJson {row : Row} (isWhole : ∀ field ∈ row.fields, field.2.IsWhole) :
    ∃ back, Row.ofJson? (readJson row) = some back ∧
      back.fields = row.fields.map fun field => (field.1, field.2.exchanged) := by
  refine ⟨_, rfl, ?_⟩
  have isFields : (row.fields.map fun field => (field.1, field.2.readJson)).map
      (fun field => (field.1, Cell.ofJson field.2)) =
        row.fields.map fun field => (field.1, field.2.exchanged) := by
    rw [List.map_map]
    refine List.map_congr_left fun field isField => ?_
    exact congrArg (Prod.mk field.1) (Cell.ofJson_readJson (isWhole field isField))
  have sameKeys : Assoc.keys (row.fields.map fun field => (field.1, field.2.exchanged)) =
      Assoc.keys row.fields := by
    simp [Assoc.keys]
  show Assoc.ofList ((row.fields.map fun field => (field.1, field.2.readJson)).map
    fun field => (field.1, Cell.ofJson field.2)) = _
  rw [isFields]
  exact Assoc.ofList_eq_self (sameKeys ▸ row.keysDistinct)

theorem fields_filterMap_readJson
    (isWhole : ∀ row ∈ rows, ∀ field ∈ row.fields, field.2.IsWhole) :
    ((rows.map readJson).filterMap Row.ofJson?).map (·.fields) =
      rows.map fun row => row.fields.map fun field => (field.1, field.2.exchanged) := by
  induction rows with
  | nil => rfl
  | cons row rows inductionHypothesis =>
    obtain ⟨back, isBack, isFields⟩ := ofJson?_readJson (isWhole row List.mem_cons_self)
    rw [List.map_cons, List.filterMap_cons_some isBack, List.map_cons, List.map_cons, isFields,
      inductionHypothesis fun other member => isWhole other (List.mem_cons_of_mem _ member)]

/-- Rows that were exported as an array can be read, and each comes back with its keys and its
    cells, if its numbers are whole and without gaps or not finite. -/
theorem ofBytes_text_json (columns : List Column)
    (isWhole : ∀ row ∈ rows, ∀ field ∈ row.fields, field.2.IsWhole) :
    ∃ back, Dataset.ofBytes .json (text .json columns rows).toUTF8 = .ok back ∧
      back.map (·.fields) =
        rows.map fun row => row.fields.map fun field => (field.1, field.2.exchanged) := by
  have isRead := Json.ofChars?_of_writes (writes_toJson isWhole) (by decide)
  refine ⟨(rows.map readJson).filterMap Row.ofJson?, ?_, fields_filterMap_readJson isWhole⟩
  rw [Dataset.ofBytes_toUTF8, Dataset.ofText, text, Json.pretty, Dataset.ofJsonChars,
    String.toList_ofList, isRead]

/-- A control character and quotes, a text that looks like an object, a number, a negative zero,
    a double that is no number, and a row without fields. -/
theorem ofBytes_text_json_quoted :
    ∃ back, Dataset.ofBytes .json
        (text .json [] [⟨[("a\"", .text "\x01\n\\"), ("b", .text "\x7b\"b\": 1\x7d"),
            ("c", .number 42), ("d", .number (Float.ofBits 0x8000000000000000)),
            ("e", .number notANumber), ("f", .bool true)], by decide⟩, Row.empty]).toUTF8 =
          .ok back ∧
      back.map (·.fields) =
        [[("a\"", .text "\x01\n\\"), ("b", .text "\x7b\"b\": 1\x7d"), ("c", .number 42),
          ("d", .number 0), ("e", .null), ("f", .bool true)], []] := by
  refine ofBytes_text_json [] (List.forall_mem_cons.2
    ⟨?_, List.forall_mem_cons.2 ⟨List.forall_mem_nil _, List.forall_mem_nil _⟩⟩)
  simp only [List.forall_mem_cons]
  refine ⟨?_, ?_, ?_, ?_, ?_, ?_, List.forall_mem_nil _⟩
  · exact Cell.isWhole_of_number?_eq_none rfl
  · exact Cell.isWhole_of_number?_eq_none rfl
  · exact Cell.isWhole_of_whole? (n := 42) rfl
  · exact Cell.isWhole_of_whole? (n := 0) rfl
  · exact Cell.isWhole_of_infinite rfl
  · exact Cell.isWhole_of_number?_eq_none rfl

end Export

end TableQuery
