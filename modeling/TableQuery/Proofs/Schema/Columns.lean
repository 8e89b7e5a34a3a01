import TableQuery.Schema

/-! # The columns of a schema

A schema that could be built has a column for each declaration, in their order, and no key
is empty or stands twice.  Without declarations the columns are the fields of the first row.
-/

namespace TableQuery.Schema

variable {rows sample : List Row} {decls : List ColumnDecl} {schema : Schema}

/-! ## Keys -/

/-- The keys that columns can have when others are taken. -/
structure AreFresh (taken keys : List String) : Prop where
  distinct : keys.Nodup
  free : ∀ key ∈ keys, key ∉ taken ∧ key ≠ ""

/-- What is wrong with a key when others are taken, if something is. -/
def keyError? (taken : List String) (key : String) : Option SchemaError :=
  if key = "" then some .emptyKey
  else if key ∈ taken then some (.duplicateColumn key)
  else none

section Keys

variable {taken keys : List String} {key : String}

theorem areFresh_nil : AreFresh taken [] := ⟨List.nodup_nil, fun _ => nofun⟩

theorem areFresh_cons : AreFresh taken (key :: keys) ↔
    keyError? taken key = none ∧ AreFresh (key :: taken) keys := by
  have isFree : keyError? taken key = none ↔ key ∉ taken ∧ key ≠ "" := by
    rw [keyError?]
    split
    · next isEmpty => simp [isEmpty]
    · next nonempty => simp [nonempty]
  rw [isFree]
  constructor
  · rintro ⟨distinct, free⟩
    rw [List.nodup_cons] at distinct
    refine ⟨free key List.mem_cons_self, distinct.2, fun other later => ?_⟩
    obtain ⟨notTaken, nonempty⟩ := free other (List.mem_cons_of_mem _ later)
    exact ⟨List.not_mem_cons_of_ne_of_not_mem (fun same => distinct.1 (same ▸ later)) notTaken,
      nonempty⟩
  · rintro ⟨isFree, distinct, free⟩
    refine ⟨List.nodup_cons.2 ⟨fun later => ?_, distinct⟩, fun other member => ?_⟩
    · exact (free key later).1 List.mem_cons_self
    · rcases List.mem_cons.1 member with rfl | later
      · exact isFree
      · obtain ⟨notTaken, nonempty⟩ := free other later
        exact ⟨List.not_mem_of_not_mem_cons notTaken, nonempty⟩

theorem keyError?_congr {taken' : List String} (same : ∀ key, key ∈ taken ↔ key ∈ taken') :
    keyError? taken key = keyError? taken' key := by
  simp only [keyError?, same]

end Keys

/-! ## Resolving declarations -/

/-- Declarations are resolved one after another, and the key of each is taken from then on. -/
theorem resolveAll_cons (sample : List Row) (taken : List String) (d : ColumnDecl)
    (rest : List ColumnDecl) : resolveAll sample taken (d :: rest) =
      match keyError? taken d.key with
      | some why => .error why
      | none => (resolveAll sample (d.key :: taken) rest).map (resolve sample d :: ·) := by
  rw [resolveAll, keyError?]
  by_cases isEmpty : d.key = ""
  · simp [isEmpty]
  · have nonempty : d.key.isEmpty = false := by simpa using isEmpty
    rw [nonempty, if_neg Bool.false_ne_true, if_neg isEmpty]
    by_cases isTaken : d.key ∈ taken
    · simp [isTaken]
    · simp only [List.contains_eq_mem, isTaken, decide_false, Bool.false_eq_true, if_false]
      cases resolveAll sample (d.key :: taken) rest <;> rfl

theorem resolveAll_eq_ok_iff {taken : List String} {columns : List Column} :
    resolveAll sample taken decls = .ok columns ↔
      AreFresh taken (decls.map (·.key)) ∧ columns = decls.map (resolve sample) := by
  induction decls generalizing taken columns with
  | nil => simp [resolveAll, areFresh_nil, eq_comm]
  | cons d rest inductionHypothesis =>
    rw [resolveAll_cons, List.map_cons, areFresh_cons, List.map_cons]
    cases keyError? taken d.key with
    | some why => simp
    | none =>
      cases isRest : resolveAll sample (d.key :: taken) rest with
      | error why =>
        have notFresh : ¬AreFresh (d.key :: taken) (rest.map (·.key)) := fun isFresh => by
          cases isRest.symm.trans (inductionHypothesis.2 ⟨isFresh, rfl⟩)
        simp [Except.map, notFresh]
      | ok others =>
        obtain ⟨isFresh, rfl⟩ := inductionHypothesis.1 isRest
        simp [Except.map, isFresh, eq_comm]

/-- What is wrong with declarations is wrong with the first key that cannot be had. -/
theorem resolveAll_eq_error_iff {taken : List String} {why : SchemaError} :
    resolveAll sample taken decls = .error why ↔
      ∃ before key after, decls.map (·.key) = before ++ key :: after ∧ AreFresh taken before ∧
        keyError? (before ++ taken) key = some why := by
  induction decls generalizing taken with
  | nil => simp [resolveAll]
  | cons d rest inductionHypothesis =>
    rw [resolveAll_cons, List.map_cons]
    constructor
    · intro failed
      -- The fault is in the first key, or in one behind it that counts the first as taken.
      cases isError : keyError? taken d.key with
      | some why' =>
        rw [isError] at failed
        obtain rfl := Except.error.inj failed
        exact ⟨[], d.key, _, rfl, areFresh_nil, isError⟩
      | none =>
        rw [isError] at failed
        cases isRest : resolveAll sample (d.key :: taken) rest with
        | ok others =>
          rw [isRest] at failed
          cases failed
        | error why' =>
          rw [isRest] at failed
          obtain rfl := Except.error.inj failed
          obtain ⟨before, key, after, isSplit, isFresh, laterError⟩ := inductionHypothesis.1 isRest
          rw [isSplit]
          refine ⟨d.key :: before, key, after, rfl, areFresh_cons.2 ⟨isError, isFresh⟩, ?_⟩
          rw [← laterError]
          exact keyError?_congr fun other => List.perm_middle.symm.mem_iff
    · rintro ⟨before, key, after, isSplit, isFresh, laterError⟩
      cases before with
      | nil =>
        obtain ⟨rfl, -⟩ := List.cons.inj isSplit
        rw [List.nil_append] at laterError
        rw [laterError]
      | cons first before =>
        obtain ⟨rfl, isRestSplit⟩ := List.cons.inj isSplit
        rw [areFresh_cons] at isFresh
        have isRest := inductionHypothesis.2 ⟨before, key, after, isRestSplit, isFresh.2,
          (keyError?_congr fun other => List.perm_middle.mem_iff).trans laterError⟩
        simp only [isFresh.1, isRest, Except.map]

theorem keys_of_resolveAll {taken : List String} {columns : List Column}
    (resolved : resolveAll sample taken decls = .ok columns) :
    (columns.map (·.key)).Nodup ∧
      ∀ column ∈ columns, column.key ∉ taken ∧ column.key ≠ "" := by
  obtain ⟨isFresh, rfl⟩ := resolveAll_eq_ok_iff.1 resolved
  have sameKeys : (decls.map (resolve sample)).map (·.key) = decls.map (·.key) := List.map_map
  rw [sameKeys]
  refine ⟨isFresh.distinct, fun column member => isFresh.free _ ?_⟩
  rw [← sameKeys]
  exact List.mem_map_of_mem member

/-! ## Building -/

section Building

variable {given : Option (List ColumnDecl)} {sampleSize : Nat}

theorem build_eq_ok_iff : build rows given sampleSize = .ok schema ↔
    AreFresh [] ((effectiveDecls rows given).map (·.key)) ∧
      schema = ⟨(effectiveDecls rows given).map (resolve (rows.take sampleSize)), rows.length,
        rows.take sampleSize⟩ := by
  rw [build]
  cases isColumns : resolveAll (rows.take sampleSize) [] (effectiveDecls rows given) with
  | ok columns =>
    obtain ⟨isFresh, rfl⟩ := resolveAll_eq_ok_iff.1 isColumns
    simp [isFresh, eq_comm]
  | error why =>
    refine iff_of_false (by simp) fun ⟨isFresh, _⟩ => ?_
    cases isColumns.symm.trans (resolveAll_eq_ok_iff.2 ⟨isFresh, rfl⟩)

theorem build_eq_error_iff {why : SchemaError} : build rows given sampleSize = .error why ↔
    ∃ before key after, (effectiveDecls rows given).map (·.key) = before ++ key :: after ∧
      AreFresh [] before ∧ keyError? before key = some why := by
  have sameError : build rows given sampleSize = .error why ↔
      resolveAll (rows.take sampleSize) [] (effectiveDecls rows given) = .error why := by
    rw [build]
    cases resolveAll (rows.take sampleSize) [] (effectiveDecls rows given) <;> simp
  simpa only [List.append_nil] using sameError.trans resolveAll_eq_error_iff

theorem resolveAll_of_build (built : build rows given sampleSize = .ok schema) :
    resolveAll (rows.take sampleSize) [] (effectiveDecls rows given) = .ok schema.columns := by
  obtain ⟨isFresh, rfl⟩ := build_eq_ok_iff.1 built
  exact resolveAll_eq_ok_iff.2 ⟨isFresh, rfl⟩

theorem nodup_keys_of_build (built : build rows given sampleSize = .ok schema) :
    (schema.columns.map (·.key)).Nodup :=
  (keys_of_resolveAll (resolveAll_of_build built)).1

/-- Without declarations a column has a key of the first row, and the label of that key. -/
theorem column_of_build (built : build rows none sampleSize = .ok schema) {column : Column}
    (member : column ∈ schema.columns) :
    ∃ first, rows.head? = some first ∧ column.key ∈ first.keys ∧
      column.label = Column.labelOfKey column.key := by
  obtain ⟨-, rfl⟩ := build_eq_ok_iff.1 built
  obtain ⟨decl, isDecl, rfl⟩ := List.mem_map.1 member
  cases rows with
  | nil => cases isDecl
  | cons first rest =>
    obtain ⟨field, isField, rfl⟩ := List.mem_map.1 isDecl
    exact ⟨first, rfl, List.mem_map.2 ⟨field, isField, rfl⟩, rfl⟩

end Building

end TableQuery.Schema
