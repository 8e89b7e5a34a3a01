import TableQuery.Proofs.Json.Printing

/-! # The text of a value without blanks

The text without blanks is a text of the value, if all numbers in it are whole ones that are kept
as they are.  So it is read as that value, unless it nests too deep.
-/

namespace TableQuery.Json

/-- Is the text without blanks a text of the value, which nests at most so deep? -/
def WritesCompact (depth : Nat) (v : Json) : Prop := Writes depth v (compactChars v)

variable {depth : Nat}

theorem isGap_nil : IsGap [] := fun _ member => by cases member

theorem writesItems_compactItems {v : Json} {items : List Json}
    (writes : ∀ w ∈ v :: items, WritesCompact depth w) :
    WritesItems depth (v :: items) (compactItems (v :: items) ++ [']']) := by
  have here := writes v List.mem_cons_self
  induction items generalizing v with
  | nil => exact .last isGap_nil here isGap_nil
  | cons w items inductionHypothesis =>
    have later : ∀ u ∈ w :: items, WritesCompact depth u := fun u member =>
      writes u (List.mem_cons_of_mem _ member)
    have all := WritesItems.cons isGap_nil here
      (inductionHypothesis later (later w List.mem_cons_self))
    simpa [compactItems] using all

theorem writesMembers_compactMembers {member : String × Json} {members : List (String × Json)}
    (writes : ∀ m ∈ member :: members, WritesCompact depth m.2) :
    WritesMembers depth (member :: members) (compactMembers (member :: members) ++ ['\x7d']) := by
  have here := writes member List.mem_cons_self
  induction members generalizing member with
  | nil =>
    have last := WritesMembers.last member.1 isGap_nil isGap_nil here isGap_nil
    simpa [compactMembers] using last
  | cons next members inductionHypothesis =>
    have later : ∀ m ∈ next :: members, WritesCompact depth m.2 := fun m isLater =>
      writes m (List.mem_cons_of_mem _ isLater)
    have all := WritesMembers.cons member.1 isGap_nil isGap_nil here
      (inductionHypothesis later (later next List.mem_cons_self))
    simpa [compactMembers] using all

namespace WritesCompact

theorem null : WritesCompact depth .null := Writes.null

theorem bool (b : Bool) : WritesCompact depth (.bool b) := Writes.bool b

theorem int {n : Int} (kept : IsKept n) : WritesCompact depth (.int n) := Writes.int kept

theorem count {n : Nat} (small : n < UInt64.size) : WritesCompact depth (.int n) :=
  int ⟨by rw [magnitudeLimit]; omega, by rw [significandLimit]; omega⟩

theorem str (s : String) : WritesCompact depth (.str s) := Writes.str s

theorem arr {items : List Json} (writes : ∀ v ∈ items, WritesCompact depth v) :
    WritesCompact (depth + 1) (.arr items) := by
  cases items with
  | nil => exact Writes.noItems
  | cons v items => exact Writes.arr (writesItems_compactItems writes)

theorem list {α : Type} {encode : α → Json} {items : List α}
    (writes : ∀ a ∈ items, WritesCompact depth (encode a)) :
    WritesCompact (depth + 1) (.arr (items.map encode)) :=
  arr (List.forall_mem_map.2 writes)

theorem obj {members : List (String × Json)} (writes : ∀ m ∈ members, WritesCompact depth m.2) :
    WritesCompact (depth + 1) (.obj members) := by
  cases members with
  | nil => exact Writes.noMembers
  | cons m members => exact Writes.obj (writesMembers_compactMembers writes)

theorem ofText?_compact {v : Json} (writes : WritesCompact depth v) (deep : depth < depthLimit) :
    ofText? v.compact = some v := by
  rw [ofText?, compact, String.toList_ofList]
  exact ofChars?_of_writes writes deep

end WritesCompact

end TableQuery.Json
