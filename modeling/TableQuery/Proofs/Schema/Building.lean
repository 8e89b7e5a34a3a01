import TableQuery.Proofs.Schema.Derivation

/-! # When schemas are built

The declarations are taken one after another, and each brings a check of its key, a column and the
examples of that column.  So a schema fails for the first key that is empty or stands before, and
otherwise has a column for each key, with an example for each sample row.
-/

namespace TableQuery.Schema

variable {rows : List Row} {decls : Option (List ColumnDecl)} {sampleSize : Nat}

/-- The keys that the columns are to have: those that are declared, or those of the first row if
    none are. -/
def wantedKeys (rows : List Row) (decls : Option (List ColumnDecl)) : List String :=
  match (decls.getD []).map (·.key) with
  | [] => Dataset.firstKeys rows
  | keys => keys

theorem map_key_effectiveDecls (rows : List Row) (decls : Option (List ColumnDecl)) :
    (effectiveDecls rows decls).map (·.key) = wantedKeys rows decls := by
  rcases decls with _ | _ | ⟨d, rest⟩
  · exact map_key_declsOfRows rows
  · exact map_key_declsOfRows rows
  · rfl

/-- What is wrong with the first key that is empty or stands before. -/
inductive FailsFirst : List String → SchemaError → Prop where
  | empty {before after : List String} (nonempty : "" ∉ before) (distinct : before.Nodup) :
      FailsFirst (before ++ "" :: after) .emptyKey
  | repeated {before after : List String} {key : String} (nonempty : "" ∉ before)
      (distinct : before.Nodup) (stands : key ∈ before) :
      FailsFirst (before ++ key :: after) (.duplicateColumn key)

/-- The schema of rows with these keys, and so many of the rows as examples. -/
structure IsMadeOf (rows : List Row) (keys : List String) (sampleSize : Nat) (schema : Schema) :
    Prop where
  keys_eq : schema.columns.map (·.key) = keys
  nonempty : ∀ column ∈ schema.columns, column.key ≠ ""
  distinct : (schema.columns.map (·.key)).Nodup
  rowCount_eq : schema.rowCount = rows.length
  sampleRows_eq : schema.sampleRows = rows.take (min sampleSize rows.length)
  examples_eq : ∀ column ∈ schema.columns,
    column.examples = schema.sampleRows.map fun row => (row.get? column.key).getD .null

theorem areFresh_nil_iff {keys : List String} : AreFresh [] keys ↔ "" ∉ keys ∧ keys.Nodup := by
  constructor
  · rintro ⟨distinct, free⟩
    exact ⟨fun member => (free "" member).2 rfl, distinct⟩
  · rintro ⟨nonempty, distinct⟩
    exact ⟨distinct, fun key member =>
      ⟨List.not_mem_nil, fun isEmpty => nonempty (isEmpty ▸ member)⟩⟩

theorem failsFirst_iff {keys : List String} {why : SchemaError} : FailsFirst keys why ↔
    ∃ before key after, keys = before ++ key :: after ∧ AreFresh [] before ∧
      keyError? before key = some why := by
  constructor
  · intro fails
    cases fails with
    | @empty before after nonempty distinct =>
      exact ⟨before, "", after, rfl, areFresh_nil_iff.2 ⟨nonempty, distinct⟩, rfl⟩
    | @repeated before after key nonempty distinct stands =>
      refine ⟨before, key, after, rfl, areFresh_nil_iff.2 ⟨nonempty, distinct⟩, ?_⟩
      have notEmpty : key ≠ "" := fun isEmpty => nonempty (isEmpty ▸ stands)
      rw [keyError?, if_neg notEmpty, if_pos stands]
  · rintro ⟨before, key, after, rfl, isFresh, isError⟩
    obtain ⟨nonempty, distinct⟩ := areFresh_nil_iff.1 isFresh
    rw [keyError?] at isError
    split at isError
    · next isEmpty =>
      cases isEmpty
      cases isError
      exact .empty nonempty distinct
    · split at isError
      · next stands =>
        cases isError
        exact .repeated nonempty distinct stands
      · cases isError

theorem isMadeOf_of_build {schema : Schema} (built : build rows decls sampleSize = .ok schema) :
    IsMadeOf rows (wantedKeys rows decls) sampleSize schema := by
  obtain ⟨isFresh, rfl⟩ := build_eq_ok_iff.1 built
  have sameKeys : ((effectiveDecls rows decls).map (resolve (rows.take sampleSize))).map (·.key) =
      (effectiveDecls rows decls).map (·.key) := List.map_map
  constructor
  case keys_eq => exact sameKeys.trans (map_key_effectiveDecls rows decls)
  case nonempty =>
    intro column member
    exact (isFresh.free _ (sameKeys ▸ List.mem_map_of_mem member)).2
  case distinct => exact sameKeys ▸ isFresh.distinct
  case rowCount_eq => rfl
  case sampleRows_eq => exact List.take_eq_take_min
  case examples_eq =>
    intro column member
    obtain ⟨d, -, rfl⟩ := List.mem_map.1 member
    rfl

/-- A schema fails just if some of the keys that are wanted is empty or stands before, and it fails
    for the first of these; otherwise there is a schema, and it has these keys in their order and
    in each column one example for each sample row. -/
theorem build_fails_first_or_isMadeOf (rows : List Row) (decls : Option (List ColumnDecl))
    (sampleSize : Nat) :
    let keys := wantedKeys rows decls
    let built := build rows decls sampleSize
    (∀ why, built = .error why ↔ FailsFirst keys why) ∧
      ((∃ why, built = .error why) ↔ "" ∈ keys ∨ ¬keys.Nodup) ∧
      ("" ∉ keys ∧ keys.Nodup ↔ ∃ schema, built = .ok schema ∧
        IsMadeOf rows keys sampleSize schema) := by
  intro keys built
  have isKeys : (effectiveDecls rows decls).map (·.key) = keys := map_key_effectiveDecls rows decls
  have succeeds_iff : "" ∉ keys ∧ keys.Nodup ↔
      ∃ schema, built = .ok schema ∧ IsMadeOf rows keys sampleSize schema := by
    rw [← areFresh_nil_iff, ← isKeys]
    constructor
    · intro isFresh
      have isBuilt : built = .ok _ := build_eq_ok_iff.2 ⟨isFresh, rfl⟩
      exact ⟨_, isBuilt, isKeys ▸ isMadeOf_of_build isBuilt⟩
    · rintro ⟨schema, isBuilt, -⟩
      exact (build_eq_ok_iff.1 isBuilt).1
  refine ⟨fun why => ?_, ?_, succeeds_iff⟩
  · rw [build_eq_error_iff, failsFirst_iff, isKeys]
  · have offends_iff : "" ∈ keys ∨ ¬keys.Nodup ↔ ¬("" ∉ keys ∧ keys.Nodup) := by
      rw [not_and_or, not_not]
    rw [offends_iff, succeeds_iff]
    cases isBuilt : built with
    | error why => simp
    | ok schema => simpa using isMadeOf_of_build isBuilt

/-- Rows that lack fields, with an empty key before a repeated one, a repeated key before an empty
    one, and no declarations. -/
theorem build_of_ragged_rows :
    let rows := [Row.ofList [("a", .bool true), ("b", .null)], Row.ofList [("b", .text "x")],
      Row.ofList []]
    let key := fun name => ColumnDecl.mk name none none
    build rows (some [key "b", key "", key "b"]) 2 = .error .emptyKey ∧
      build rows (some [key "b", key "c", key "b", key ""]) 2 = .error (.duplicateColumn "b") ∧
      ∃ schema, build rows (some []) 2 = .ok schema ∧ IsMadeOf rows ["a", "b"] 2 schema := by
  intro rows key
  obtain ⟨emptyFirst, -⟩ :=
    build_fails_first_or_isMadeOf rows (some [key "b", key "", key "b"]) 2
  obtain ⟨repeatedFirst, -⟩ :=
    build_fails_first_or_isMadeOf rows (some [key "b", key "c", key "b", key ""]) 2
  obtain ⟨-, -, succeeds⟩ := build_fails_first_or_isMadeOf rows (some []) 2
  refine ⟨(emptyFirst _).2 ?_, (repeatedFirst _).2 ?_, succeeds.1 (by decide)⟩
  · exact .empty (by decide : "" ∉ ["b"]) (by decide)
  · exact .repeated (by decide : "" ∉ ["b", "c"]) (by decide) (by decide)

end TableQuery.Schema
