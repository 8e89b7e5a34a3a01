import TableQuery.Proofs.Schema.Building

/-! # Rows of records

Records can be longer or shorter than the headers, and headers can repeat a name.  Even so all rows
have the same keys in the same order, so the columns that are taken from the first row are the
fields of each.
-/

namespace TableQuery

namespace Row

/-- The row of a record: each header once, where its name first stands, with the cell at the place
    where its name last stands. -/
structure IsRowOf (headers : List String) (record : List (List Char)) (row : Row) : Prop where
  keys_eq : row.keys = headers.eraseDups
  get?_eq : ∀ {before after : List String} {key : String}, headers = before ++ key :: after →
    key ∉ after → row.get? key = some (fieldAt record before.length)

theorem ofRecord_take (headers : List String) (record : List (List Char)) :
    ofRecord headers (record.take headers.length) = ofRecord headers record := by
  rw [ofRecord, ofRecord, fieldsFrom_eq, fieldsFrom_eq]
  refine congrArg ofList (List.map_congr_left fun header member => ?_)
  rw [fieldAt, fieldAt, List.getElem?_take_of_lt (by simpa using List.snd_lt_of_mem_zipIdx member)]

theorem isRowOf_ofRecord (headers : List String) (record : List (List Char)) :
    IsRowOf headers record (ofRecord headers record) := by
  constructor
  case keys_eq => rw [keys, ofRecord, ofList, Assoc.keys_ofList, keys_fieldsFrom]
  case get?_eq =>
    intro before after key isSplit isLast
    -- The headers behind have other names, so nothing is written over this cell.
    have notAfter : key ∉ Assoc.keys (ofRecord.fieldsFrom after
        (record.drop (before.length + 1))) := by
      rwa [keys_fieldsFrom]
    rw [fieldsFrom_drop] at notAfter
    rw [get?, ofRecord, ofList, fieldsFrom_eq, isSplit, List.zipIdx_append, List.zipIdx_cons,
      List.map_append, List.map_cons, Nat.zero_add]
    exact Assoc.get?_ofList_append_cons _ notAfter

end Row

namespace Dataset

/-- Rows that were read from comma-separated text are those of the records behind the headers, one
    for each in their order, and fields that have no header do not matter.  The columns that are
    taken from the first row are the fields of every row. -/
theorem isRowOf_of_ofBytes {bytes : ByteArray} {rows : List Row}
    (loaded : ofBytes .csv bytes = .ok rows) :
    List.Forall₂ (Row.IsRowOf (headers bytes)) (records bytes) rows ∧
      List.Forall₂ (Row.IsRowOf (headers bytes))
        ((records bytes).map (·.take (headers bytes).length)) rows ∧
      ∀ row ∈ rows, (Schema.declsOfRows rows).map (·.key) = row.keys ∧
        ∀ sampleSize schema, Schema.build rows none sampleSize = .ok schema →
          schema.columns.map (·.key) = row.keys := by
  obtain rfl := eq_map_ofRecord_of_ofBytes loaded
  refine ⟨?_, ?_, fun row member => ?_⟩
  · rw [List.forall₂_map_right_iff, List.forall₂_same]
    exact fun record _ => Row.isRowOf_ofRecord _ record
  · rw [List.forall₂_map_left_iff, List.forall₂_map_right_iff, List.forall₂_same]
    intro record _
    rw [← Row.ofRecord_take]
    exact Row.isRowOf_ofRecord _ _
  · obtain ⟨record, isRecord, rfl⟩ := List.mem_map.1 member
    have isKeys : firstKeys ((records bytes).map (Row.ofRecord (headers bytes))) =
        (Row.ofRecord (headers bytes) record).keys := by
      rw [(Row.isRowOf_ofRecord _ record).keys_eq]
      cases isRecords : records bytes with
      | nil =>
        rw [isRecords] at isRecord
        cases isRecord
      | cons first rest => exact (Row.isRowOf_ofRecord _ first).keys_eq
    refine ⟨(Schema.map_key_declsOfRows _).trans isKeys, fun sampleSize schema built => ?_⟩
    exact (Schema.isMadeOf_of_build built).keys_eq.trans isKeys

/-- A header that repeats a name, over a record that is too short and one that is too long. -/
theorem isRowOf_of_ofBytes_ragged :
    let bytes := "a,b,a\n1,x\ny,2,z,4\n".toUTF8
    ∃ short long, ofBytes .csv bytes = .ok [short, long] ∧ short.keys = ["a", "b"] ∧
      long.keys = ["a", "b"] ∧ short.get? "a" = some .null ∧ short.get? "b" = some (.text "x") ∧
      long.get? "a" = some (.text "z") ∧
      (Schema.declsOfRows [short, long]).map (·.key) = ["a", "b"] := by
  intro bytes
  have isHeaders : headers bytes = ["a", "b", "a"] := by
    rw [headers_toUTF8]
    decide
  have isRecords : records bytes = [[['1'], ['x']], [['y'], ['2'], ['z'], ['4']]] := by
    rw [records_toUTF8]
    decide
  obtain ⟨rows, loaded⟩ : ∃ rows, ofBytes .csv bytes = .ok rows :=
    ⟨_, ofBytes_toUTF8 .csv "a,b,a\n1,x\ny,2,z,4\n"⟩
  obtain ⟨areRows, -, haveColumns⟩ := isRowOf_of_ofBytes loaded
  rw [isHeaders, isRecords] at areRows
  rcases areRows with _ | @⟨_, short, _, _, isShort, _ | @⟨_, long, _, _, isLong, _ | _⟩⟩
  have isLastA : "a" ∉ ([] : List String) := List.not_mem_nil
  have isLastB : "b" ∉ ["a"] := by decide
  have splitA : ["a", "b", "a"] = ["a", "b"] ++ "a" :: [] := rfl
  have splitB : ["a", "b", "a"] = ["a"] ++ "b" :: ["a"] := rfl
  have sameKeys : short.keys = ["a", "b"] := isShort.keys_eq.trans (by decide)
  exact ⟨short, long, loaded, sameKeys, isLong.keys_eq.trans (by decide),
    isShort.get?_eq splitA isLastA, isShort.get?_eq splitB isLastB, isLong.get?_eq splitA isLastA,
    (haveColumns short List.mem_cons_self).1.trans sameKeys⟩

end Dataset

end TableQuery
