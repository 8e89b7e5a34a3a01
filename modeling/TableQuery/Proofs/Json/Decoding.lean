import TableQuery.Proofs.Json.Compact
import TableQuery.Json.Decode

/-! # Decoding what was encoded

A record is encoded as an object whose fields stand under different names, so each of them is
found again.  A field is restored if what is decoded from it equals what was encoded; numbers are
compared as doubles, for which the two zeros are equal.
-/

namespace TableQuery.Json

/-! ## Fields -/

/-- The members of the fields that are given. -/
def membersOf (fields : List (String × Option Json)) : List (String × Json) :=
  fields.flatMap fun field => memberIf field.1 field.2

theorem valuesOf_append (name : String) (members more : List (String × Json)) :
    valuesOf name (members ++ more) = valuesOf name members ++ valuesOf name more := by
  simp [valuesOf]

theorem valuesOf_memberIf (name other : String) (v : Option Json) :
    valuesOf name (memberIf other v) = if other = name then v.toList else [] := by
  cases v <;> by_cases same : other = name <;> simp [valuesOf, memberIf, same]

theorem valuesOf_membersOf_cons (name : String) (field : String × Option Json)
    (fields : List (String × Option Json)) : valuesOf name (membersOf (field :: fields)) =
      (if field.1 = name then field.2.toList else []) ++ valuesOf name (membersOf fields) := by
  rw [membersOf, List.flatMap_cons, valuesOf_append, valuesOf_memberIf]
  rfl

theorem valuesOf_membersOf_of_notMem {name : String} {fields : List (String × Option Json)}
    (new : name ∉ fields.map Prod.fst) : valuesOf name (membersOf fields) = [] := by
  induction fields with
  | nil => rfl
  | cons field fields inductionHypothesis =>
    simp only [List.map_cons, List.mem_cons, not_or] at new
    rw [valuesOf_membersOf_cons, if_neg fun same => new.1 same.symm, inductionHypothesis new.2]
    rfl

theorem valuesOf_membersOf {fields : List (String × Option Json)}
    (distinct : (fields.map Prod.fst).Nodup) {field : String × Option Json}
    (member : field ∈ fields) : valuesOf field.1 (membersOf fields) = field.2.toList := by
  induction fields with
  | nil => cases member
  | cons first fields inductionHypothesis =>
    obtain ⟨new, distinct⟩ := List.nodup_cons.1 distinct
    rw [valuesOf_membersOf_cons]
    rcases List.mem_cons.1 member with rfl | later
    · rw [if_pos rfl, valuesOf_membersOf_of_notMem new, List.append_nil]
    · have other : first.1 ≠ field.1 := fun same => new (same ▸ List.mem_map_of_mem later)
      rw [if_neg other, inductionHypothesis distinct later, List.nil_append]

theorem single?_toList (v : Option Json) : single? v.toList = some v := by
  cases v <;> rfl

/-- The fields of a record are found in the object of those that are given. -/
theorem fields?_membersOf {names : List String} {fields : List (String × Option Json)}
    (areNames : fields.map Prod.fst = names) (distinct : names.Nodup) :
    fields? names (.obj (membersOf fields)) = some (fields.map Prod.snd) := by
  subst areNames
  -- The induction is on the names that are looked up; each is looked up among all members.
  have found : ∀ part, part ⊆ fields → (part.map Prod.fst).mapM (fun name =>
      single? (valuesOf name (membersOf fields))) = some (part.map Prod.snd) := by
    intro part within
    induction part with
    | nil => rfl
    | cons field part inductionHypothesis =>
      obtain ⟨member, later⟩ := List.cons_subset.1 within
      rw [List.map_cons, List.mapM_cons, valuesOf_membersOf distinct member, single?_toList,
        inductionHypothesis later]
      rfl
  exact found fields fun _ member => member

theorem WritesCompact.membersOf {depth : Nat} {fields : List (String × Option Json)}
    (writes : ∀ field ∈ fields, ∀ v ∈ field.2, WritesCompact depth v) :
    WritesCompact (depth + 1) (.obj (membersOf fields)) := by
  refine .obj fun m member => ?_
  obtain ⟨⟨name, v⟩, isField, isMember⟩ := List.mem_flatMap.1 member
  cases v with
  | none => cases isMember
  | some v =>
    obtain rfl := List.mem_singleton.1 isMember
    exact writes _ isField v rfl

/-! ## Values -/

section

variable {σ α : Type} [BEq α]

/-- Is what is decoded from the source equal to the value? -/
def Restores (decode : σ → Option α) (source : σ) (a : α) : Prop :=
  ∃ back, decode source = some back ∧ (back == a) = true

theorem Restores.of_eq [ReflBEq α] {decode : σ → Option α} {source : σ} {a : α}
    (isDecoded : decode source = some a) : Restores decode source a :=
  ⟨a, isDecoded, BEq.rfl⟩

theorem Restores.eq_some [LawfulBEq α] {decode : σ → Option α} {source : σ} {a : α}
    (restores : Restores decode source a) : decode source = some a := by
  obtain ⟨back, isBack, same⟩ := restores
  rw [isBack, eq_of_beq same]

theorem Restores.mapM {decode : σ → Option α} {encode : α → σ} {items : List α}
    (restores : ∀ a ∈ items, Restores decode (encode a) a) :
    Restores (fun sources : List σ => sources.mapM decode) (items.map encode) items := by
  show ∃ back, (items.map encode).mapM decode = some back ∧ _
  induction items with
  | nil => exact ⟨[], rfl, rfl⟩
  | cons a items inductionHypothesis =>
    obtain ⟨first, isFirst, same⟩ := restores a List.mem_cons_self
    obtain ⟨others, areOthers, sameOthers⟩ := inductionHypothesis
      fun b member => restores b (List.mem_cons_of_mem _ member)
    refine ⟨first :: others, ?_, ?_⟩
    · rw [List.map_cons, List.mapM_cons, isFirst, areOthers]
      rfl
    · exact Bool.and_eq_true_iff.2 ⟨same, sameOthers⟩

variable {decode : Json → Option α} {encode : α → Json}

theorem Restores.list {items : List α} (restores : ∀ a ∈ items, Restores decode (encode a) a) :
    Restores (list? decode) (.arr (items.map encode)) items :=
  .mapM restores

/-- A part that may be missing is restored if no such part is encoded as null. -/
theorem Restores.nullable {part : Option α} (notNull : ∀ a, encode a ≠ .null)
    (restores : ∀ a ∈ part, Restores decode (encode a) a) :
    Restores (nullable? decode) (part.map encode) part := by
  cases part with
  | none => exact ⟨none, rfl, rfl⟩
  | some a =>
    obtain ⟨back, isBack, same⟩ := restores a rfl
    refine ⟨some back, ?_, same⟩
    rw [Option.map_some, nullable?]
    · rw [isBack]
      rfl
    · exact notNull a

end

-- Neither is proved by `rfl`: checked as such, it would unfold the bound of `word?` in each use.
@[simp] theorem required?_some {α : Type} (decode : Json → Option α) (v : Json) :
    required? decode (some v) = decode v := by
  rw [required?]

@[simp] theorem orDefault?_some {α : Type} (decode : Json → Option α) (default : α) (v : Json) :
    orDefault? decode default (some v) = decode v := by
  rw [orDefault?]

@[simp] theorem nullable?_str (s : Option String) : nullable? str? (s.map .str) = some s := by
  cases s <;> rfl

theorem word?_count {n : Nat} (small : n < UInt64.size) : word? (.int n) = some n := by
  rw [word?, if_pos (by omega), Int.toNat_natCast]

end TableQuery.Json
