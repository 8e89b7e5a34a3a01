import TableQuery.Proofs.Text.FinalSigma

/-! # Texts that hold a text

A condition that looks for a text compares in lower case, which is made of the text that is
looked for and of the cell one by one.  It holds of a cell that holds the text as it is
written, unless a capital sigma of the text ends a word in one of the two and not in the other.
-/

namespace TableQuery.Condition

theorem holds_contains_iff (column needle text : String) :
    holds ⟨column, .contains, .scalar (.text needle)⟩ (some (.text text)) = true ↔
      Text.lower needle.toList <:+: Text.lower text.toList :=
  Text.occursIn_iff

/-- A text is found in a cell that holds it where the capital sigmas of the text end words in the
    cell just as they do in the text.  It is found in every cell that holds it just if none of its
    sigmas depends on what surrounds the text. -/
theorem holds_contains_of_infix (column needle : String) :
    (∀ (text : String) (before after : List Char), text.toList = before ++ needle.toList ++ after →
      (∀ left right, needle.toList = left ++ Text.capitalSigma :: right →
        Text.endsWord (before ++ left) (right ++ after) = Text.endsWord left right) →
      holds ⟨column, .contains, .scalar (.text needle)⟩ (some (.text text)) = true) ∧
    ((∀ text : String, needle.toList <:+: text.toList →
        holds ⟨column, .contains, .scalar (.text needle)⟩ (some (.text text)) = true) ↔
      ∀ left right, needle.toList = left ++ Text.capitalSigma :: right →
        Text.IsSettled left right) := by
  constructor
  · intro text before after split same
    rw [holds_contains_iff, split]
    exact Text.lower_infix_of_endsWord_eq same
  · rw [← Text.lower_infix_iff]
    constructor
    · intro found before after
      have ofText := found (String.ofList (before ++ needle.toList ++ after))
        ⟨before, after, by rw [String.toList_ofList]⟩
      rwa [holds_contains_iff, String.toList_ofList] at ofText
    · rintro found text ⟨before, after, split⟩
      rw [holds_contains_iff, ← split]
      exact found before after

/-- The sigma at the end of the text is no longer at the end of a word in the cell; a pattern
    of the same characters is found in it. -/
theorem not_holds_contains_final_sigma :
    "ΑΣ".toList <:+: "ΑΣΑ".toList ∧
      holds ⟨"name", .contains, .scalar (.text "ΑΣ")⟩ (some (.text "ΑΣΑ")) = false ∧
      holds ⟨"name", .regex, .scalar (.text "ΑΣ")⟩ (some (.text "ΑΣΑ")) = true :=
  ⟨⟨[], ['Α'], by decide⟩, by decide +kernel, by decide +kernel⟩

end TableQuery.Condition
