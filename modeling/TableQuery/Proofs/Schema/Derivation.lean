import TableQuery.Proofs.Assoc.Keys
import TableQuery.Proofs.Csv.Reload
import TableQuery.Proofs.Schema.Columns

/-! # Schemas of what was read

Without declarations the columns of a schema are the fields of the first row.  The keys of a row
differ from each other, so the one thing that a schema can fail for is an empty key, and a dataset
has one if its document gives a field of the first row the empty name.
-/

namespace TableQuery

/-! ## What documents name -/

def Json.memberNames? : Json → Option (List String)
  | .obj members => some (Assoc.keys members)
  | _ => none

namespace Dataset

/-- The names of the fields in the first row under a header, if it has one. -/
def csvNames : List (List (List Char)) → List String
  | header :: _ :: _ => header.map String.ofList
  | _ => []

/-- The names of the members of the first object in a JSON text, if it has one. -/
def jsonNames (s : List Char) : List String :=
  match Json.ofChars? s with
  | some (.arr items) => (items.findSome? Json.memberNames?).getD []
  | _ => []

/-- The names that a document gives the fields of its first row. -/
def firstNames (format : DataFormat) (bytes : ByteArray) : List String :=
  match format with
  | .csv => ((Csv.records? bytes.data.toList).map csvNames).getD []
  | .json => ((String.fromUTF8? bytes).map fun text => jsonNames text.toList).getD []

def firstKeys (rows : List Row) : List String := (rows.head?.map Row.keys).getD []

theorem firstKeys_ofRecords (records : List (List (List Char))) :
    firstKeys (ofRecords records) = (csvNames records).eraseDups := by
  cases records with
  | nil => rfl
  | cons header records =>
    cases records with
    | nil => rfl
    | cons record records =>
      have isFirst : firstKeys (ofRecords (header :: record :: records)) =
        (Row.ofRecord (header.map String.ofList) record).keys := rfl
      rw [isFirst, csvNames, Row.keys, Row.ofRecord, Row.ofList, Assoc.keys_ofList,
        Row.keys_fieldsFrom]

theorem keys_ofJson? :
    Option.map Row.keys ∘ Row.ofJson? = Option.map List.eraseDups ∘ Json.memberNames? := by
  funext item
  cases item with
  | obj members =>
    have isKeys : Assoc.keys (members.map fun member => (member.1, Cell.ofJson member.2)) =
        Assoc.keys members := by
      rw [Assoc.keys, List.map_map]
      rfl
    exact congrArg some ((Assoc.keys_ofList _).trans (congrArg List.eraseDups isKeys))
  | null | bool _ | int _ | float _ | str _ | arr _ => rfl

theorem firstKeys_filterMap_ofJson? (items : List Json) : firstKeys (items.filterMap Row.ofJson?) =
    ((items.findSome? Json.memberNames?).getD []).eraseDups := by
  -- Items that are no objects are passed over on both sides.
  rw [firstKeys, List.head?_filterMap, List.map_findSome?, keys_ofJson?, ← List.map_findSome?]
  cases items.findSome? Json.memberNames? with
  | none => rfl
  | some names => rfl

theorem firstKeys_of_ofJsonChars {s : List Char} {rows : List Row}
    (loaded : ofJsonChars s = .ok rows) : firstKeys rows = (jsonNames s).eraseDups := by
  rw [ofJsonChars] at loaded
  rw [jsonNames]
  cases isValue : Json.ofChars? s with
  | none =>
    rw [isValue] at loaded
    cases loaded
  | some value =>
    rw [isValue] at loaded
    cases value with
    | null | bool _ | int _ | float _ | str _ | obj _ => cases loaded
    | arr items =>
      cases loaded
      exact firstKeys_filterMap_ofJson? items

/-- The keys of the first row are the names that the document gives its fields, in the order in
    which they come up. -/
theorem firstKeys_of_ofBytes {format : DataFormat} {bytes : ByteArray} {rows : List Row}
    (loaded : ofBytes format bytes = .ok rows) :
    firstKeys rows = (firstNames format bytes).eraseDups := by
  cases format with
  | csv =>
    rw [ofBytes] at loaded
    rw [firstNames]
    cases isRead : Csv.records? bytes.data.toList with
    | none =>
      rw [isRead] at loaded
      cases loaded
    | some records =>
      rw [isRead] at loaded
      cases loaded
      exact firstKeys_ofRecords records
  | json =>
    rw [ofBytes] at loaded
    rw [firstNames]
    cases isText : String.fromUTF8? bytes with
    | none =>
      rw [isText] at loaded
      cases loaded
    | some text =>
      rw [isText] at loaded
      exact firstKeys_of_ofJsonChars loaded

end Dataset

namespace Schema

theorem map_key_declsOfRows (rows : List Row) :
    (declsOfRows rows).map (·.key) = Dataset.firstKeys rows := by
  cases rows with
  | nil => rfl
  | cons first rest =>
    rw [declsOfRows, List.map_map]
    rfl

theorem nodup_firstKeys (rows : List Row) : (Dataset.firstKeys rows).Nodup := by
  cases rows with
  | nil => exact List.nodup_nil
  | cons first rest => exact first.keysDistinct

theorem build_none (rows : List Row) (sampleSize : Nat) : build rows none sampleSize =
    if "" ∈ Dataset.firstKeys rows then .error .emptyKey
    else .ok ⟨(declsOfRows rows).map (resolve (rows.take sampleSize)), rows.length,
      rows.take sampleSize⟩ := by
  have isKeys : (effectiveDecls rows none).map (·.key) = Dataset.firstKeys rows :=
    map_key_declsOfRows rows
  have distinct := nodup_firstKeys rows
  split
  · next isEmpty =>
    obtain ⟨before, after, isSplit, notBefore⟩ := List.eq_append_cons_of_mem isEmpty
    rw [isSplit] at distinct
    refine build_eq_error_iff.2 ⟨before, "", after, isKeys.trans isSplit, ?_, rfl⟩
    exact ⟨(List.nodup_append.1 distinct).1, fun key member =>
      ⟨List.not_mem_nil, fun same => notBefore (same ▸ member)⟩⟩
  · next nonempty =>
    refine build_eq_ok_iff.2 ⟨isKeys ▸ ⟨distinct, fun key member => ?_⟩, rfl⟩
    exact ⟨List.not_mem_nil, fun same => nonempty (same ▸ member)⟩

/-- Rows that were read, from whichever format, give a schema with one column for each key of the
    first row, in their order, unless the document gives a field of that row the empty name: then
    there is no schema.  The keys are the names in the order in which they come up. -/
theorem build_of_ofBytes {format : DataFormat} {bytes : ByteArray} {rows : List Row}
    (loaded : Dataset.ofBytes format bytes = .ok rows) (sampleSize : Nat) :
    let names := Dataset.firstNames format bytes
    Dataset.firstKeys rows = names.eraseDups ∧
      ("" ∈ names → build rows none sampleSize = .error .emptyKey) ∧
      ("" ∉ names → ∃ schema, build rows none sampleSize = .ok schema ∧
        schema.columns.map (·.key) = Dataset.firstKeys rows) := by
  intro names
  have isKeys := Dataset.firstKeys_of_ofBytes loaded
  have isEmpty_iff : "" ∈ Dataset.firstKeys rows ↔ "" ∈ names := by
    rw [isKeys, List.mem_eraseDups]
  rw [build_none]
  refine ⟨isKeys, ?_, ?_⟩
  · intro isNamed
    rw [if_pos (isEmpty_iff.2 isNamed)]
  · intro notNamed
    rw [if_neg (mt isEmpty_iff.1 notNamed)]
    refine ⟨_, rfl, ?_⟩
    rw [← map_key_declsOfRows, List.map_map]
    rfl

/-- A name that is given twice makes one column. -/
theorem build_of_ofBytes_repeated_name :
    let bytes := "n,city,n\n1,Rome,2\n".toUTF8
    ∃ rows schema, Dataset.ofBytes .csv bytes = .ok rows ∧
      Dataset.firstNames .csv bytes = ["n", "city", "n"] ∧ build rows none 5 = .ok schema ∧
      schema.columns.map (·.key) = ["n", "city"] := by
  intro bytes
  have loaded := Dataset.ofBytes_toUTF8 .csv "n,city,n\n1,Rome,2\n"
  have isNames : Dataset.firstNames .csv bytes = ["n", "city", "n"] := by
    rw [Dataset.firstNames, Dataset.toList_toUTF8, Csv.records?_bytes]
    decide
  obtain ⟨isKeys, -, built⟩ := build_of_ofBytes loaded 5
  rw [isNames] at isKeys built
  obtain ⟨schema, isSchema, isColumns⟩ := built (by decide)
  refine ⟨_, schema, loaded, isNames, isSchema, ?_⟩
  rw [isColumns, isKeys]
  decide

/-- Rows that were read under a header with an empty name give no schema. -/
theorem build_of_ofBytes_empty_name :
    ∃ rows, Dataset.ofBytes .csv ",city\n1,Rome\n".toUTF8 = .ok rows ∧
      Dataset.firstKeys rows = ["", "city"] ∧ build rows none defaultSampleSize = .error .emptyKey :=
  ⟨_, Dataset.ofBytes_toUTF8 .csv ",city\n1,Rome\n", by decide, rfl⟩

end Schema

end TableQuery
