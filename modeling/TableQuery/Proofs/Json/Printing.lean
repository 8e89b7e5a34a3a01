import TableQuery.Proofs.Json.Reading

/-! # The printed text of a value

The text with one item a line is a text of the value.  It is put together from the texts of the
items or members, each of which may be read as another value than the one that was printed, as
a double that is not finite is.
-/

namespace TableQuery.Json

variable {α : Type} {depth : Nat}

theorem isGap_lineBreak (level : Nat) : IsGap (lineBreak level) := by
  intro c member
  rcases List.mem_cons.1 member with rfl | isSpace
  · rfl
  · rw [List.eq_of_mem_replicate isSpace]
    rfl

theorem writesItems_prettyItems {level : Nat} (outer : Nat) (printed read : α → Json) (a : α)
    (items : List α)
    (writes : ∀ b ∈ a :: items, Writes depth (read b) (prettyChars level (printed b))) :
    WritesItems depth ((a :: items).map read)
      (prettyItems level ((a :: items).map printed) ++ lineBreak outer ++ [']']) := by
  induction items generalizing a with
  | nil =>
    have last := WritesItems.last (isGap_lineBreak level) (writes a List.mem_cons_self)
      (isGap_lineBreak outer)
    simpa [prettyItems] using last
  | cons b items inductionHypothesis =>
    have others := inductionHypothesis b fun c member => writes c (List.mem_cons_of_mem _ member)
    have all := WritesItems.cons (isGap_lineBreak level) (writes a List.mem_cons_self) others
    simpa [prettyItems] using all

theorem writesMembers_prettyMembers {level : Nat} (outer : Nat) (name : α → String)
    (printed read : α → Json) (a : α) (items : List α)
    (writes : ∀ b ∈ a :: items, Writes depth (read b) (prettyChars level (printed b))) :
    WritesMembers depth ((a :: items).map fun b => (name b, read b))
      (prettyMembers level ((a :: items).map fun b => (name b, printed b)) ++
        lineBreak outer ++ ['\x7d']) := by
  have oneSpace : IsGap [' '] := by
    intro c member
    rw [List.mem_singleton.1 member]
    rfl
  induction items generalizing a with
  | nil =>
    have last := WritesMembers.last (name a) (isGap_lineBreak level) oneSpace
      (writes a List.mem_cons_self) (isGap_lineBreak outer)
    simpa [prettyMembers] using last
  | cons b items inductionHypothesis =>
    have others := inductionHypothesis b fun c member => writes c (List.mem_cons_of_mem _ member)
    have all := WritesMembers.cons (name a) (isGap_lineBreak level) oneSpace
      (writes a List.mem_cons_self) others
    simpa [prettyMembers] using all

/-- An array is printed as a text of the values that its printed items are read as. -/
theorem writes_prettyChars_arr (level : Nat) (printed read : α → Json) (items : List α)
    (writes : ∀ a ∈ items, Writes depth (read a) (prettyChars (level + 1) (printed a))) :
    Writes (depth + 1) (.arr (items.map read)) (prettyChars level (.arr (items.map printed))) := by
  cases items with
  | nil => exact .noItems
  | cons a items =>
    have all := writesItems_prettyItems level printed read a items writes
    exact .arr all

/-- An object is printed as a text of the values that its printed members are read as. -/
theorem writes_prettyChars_obj (level : Nat) (name : α → String) (printed read : α → Json)
    (items : List α)
    (writes : ∀ a ∈ items, Writes depth (read a) (prettyChars (level + 1) (printed a))) :
    Writes (depth + 1) (.obj (items.map fun a => (name a, read a)))
      (prettyChars level (.obj (items.map fun a => (name a, printed a)))) := by
  cases items with
  | nil => exact .noMembers
  | cons a items =>
    have all := writesMembers_prettyMembers level name printed read a items writes
    exact .obj all

theorem ofChars?_of_writes {v : Json} {s : List Char} (writes : Writes depth v s)
    (deep : depth < depthLimit) : ofChars? s = some v := by
  have read : readValue? (2 * s.length + 2) depthLimit (s ++ []) = some (v, []) :=
    readValue?_of_writes writes deep (by omega) (fun c isHead => by cases isHead)
  rw [List.append_nil] at read
  rw [ofChars?, read]
  rfl

end TableQuery.Json
