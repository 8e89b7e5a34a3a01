import TableQuery.Proofs.Schema.Encoding
import TableQuery.Proofs.Transformation.Encoding

/-! # Records that are read back

Every record that is written without blanks is read back as an equal one, if its numbers are whole
and without gaps and its counts fit into 64 bits.
-/

namespace TableQuery

open Json

/-- Is the record equal to what is read back from its text without blanks? -/
def ReadsBack {α : Type} [BEq α] (encode : α → Json) (decode : Json → Option α) (a : α) : Prop :=
  ∃ back, (ofText? (encode a).compact).bind decode = some back ∧ (back == a) = true

theorem readsBack_of_restores {α : Type} [BEq α] {encode : α → Json} {decode : Json → Option α}
    {a : α} {depth : Nat} (writes : WritesCompact depth (encode a)) (deep : depth < depthLimit)
    (restores : Restores decode (encode a) a) : ReadsBack encode decode a := by
  obtain ⟨back, isBack, same⟩ := restores
  refine ⟨back, ?_, same⟩
  rw [writes.ofText?_compact deep]
  exact isBack

/-- Plans, schemas, declarations, agents, transformations and changes are read back as they were,
    whichever of their parts they have and whatever their texts are. -/
theorem readsBack_of_isInteger :
    (∀ p : Plan, (∀ cell ∈ p.cells, cell.IsInteger) → (∀ n ∈ p.limit, n < UInt64.size) →
      ReadsBack Plan.toJson Plan.decode? p) ∧
    (∀ s : Schema, (∀ cell ∈ s.cells, cell.IsInteger) → s.rowCount < UInt64.size →
      ReadsBack Schema.toJson Schema.decode? s) ∧
    (∀ d : ColumnDecl, ReadsBack ColumnDecl.toJson ColumnDecl.decode? d) ∧
    (∀ a : Agent, ReadsBack Agent.toJson Agent.decode? a) ∧
    (∀ t : Transformation, ReadsBack Transformation.toJson Transformation.decode? t) ∧
    (∀ c : Change, (∀ cell ∈ c.cells, cell.IsInteger) → c.rowIndex < UInt64.size →
      ReadsBack Change.toJson Change.decode? c) := by
  refine ⟨fun p areIntegers small => ?_, fun s areIntegers small => ?_, fun d => ?_, fun a => ?_,
    fun t => ?_, fun c areIntegers small => ?_⟩
  · exact readsBack_of_restores (Plan.writesCompact_toJson areIntegers small) (by decide : 5 < _)
      (Plan.restores_toJson areIntegers small)
  · exact readsBack_of_restores (Schema.writesCompact_toJson areIntegers small) (by decide : 4 < _)
      (Schema.restores_toJson areIntegers small)
  · exact readsBack_of_restores d.writesCompact_toJson (by decide : 1 < _) (.of_eq d.decode?_toJson)
  · exact readsBack_of_restores a.writesCompact_toJson (by decide : 1 < _) (.of_eq a.decode?_toJson)
  · exact readsBack_of_restores t.writesCompact_toJson (by decide : 1 < _) (.of_eq t.decode?_toJson)
  · exact readsBack_of_restores (Change.writesCompact_toJson areIntegers small)
      (by decide : 1 < _) (Change.restores_toJson areIntegers small)

/-- A cell beside lists with two cells, one and none, an empty cell as a value, a negative zero, the
    greatest limit, and a row whose text reads like an object. -/
theorem readsBack_of_isInteger_mixed :
    let plan : Plan := ⟨"\"sum\" \x00\n", some ⟨[
        ⟨"total", .between, .list [.number (-9007199254740991), .number 2]⟩,
        ⟨"in", .oneOf, .list [.text "[]"]⟩, ⟨"", .oneOf, .list []⟩, ⟨"x", .equals, .scalar .null⟩,
        ⟨"n", .gt, .scalar (.number (Float.ofBits 0x8000000000000000))⟩], .any⟩,
      none, some 18446744073709551615, ""⟩
    let schema : Schema := ⟨[⟨"k", .date, "K", [.null, .number 3]⟩], 7,
      [⟨[("k", .text "\x7b\"k\":1\x7d"), ("", .bool true)], by decide⟩, Row.empty]⟩
    let change : Change := ⟨0, "k", .null, .number 1⟩
    ReadsBack Plan.toJson Plan.decode? plan ∧ ReadsBack Schema.toJson Schema.decode? schema ∧
      ReadsBack ColumnDecl.toJson ColumnDecl.decode? ⟨"k", none, some ""⟩ ∧
      ReadsBack Change.toJson Change.decode? change := by
  intro plan schema change
  obtain ⟨plans, schemas, decls, -, -, changes⟩ := readsBack_of_isInteger
  exact ⟨plans plan (by decide +kernel) (by decide), schemas schema (by decide +kernel) (by decide),
    decls _, changes change (by decide +kernel) (by decide)⟩

end TableQuery
