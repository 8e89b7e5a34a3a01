import Mathlib.Data.List.Forall2
import TableQuery.Proofs.Numeral.Digits
import TableQuery.Proofs.Pattern.Gives
import TableQuery.Proofs.Question.NumberClause

/-! # What phrases say

Every condition that is found in a text comes with a phrase that says the label of its column,
its operator and its value: a text as it is, a number by the numeral that was read.  Numerals
that are found have no sign, so no number is below zero.
-/

namespace TableQuery.Question

open Pattern

/-! ## Numerals that are found -/

theorem exists_numeral_of_find? {relation : Relation} {names : Pattern} {s : List Char}
    {found : Found} (isFound : find? (relation.rule.pattern names) s = some found) :
    ∃ d digits fraction, found.pieces.get? 1 = some (d :: digits ++ fraction) ∧
      d :: digits ++ fraction <:+: s ∧ (∀ c ∈ d :: digits, Text.isDecimalDigit c = true) ∧
        IsFraction fraction := by
  obtain ⟨place, way, ⟨pre, cut, -⟩, isFirst, rfl⟩ := exists_way_of_find? isFound
  obtain ⟨afterName, ⟨name, cutName⟩, member⟩ := mem_ways_seq (List.mem_of_mem_head? isFirst)
  obtain ⟨afterGap, ⟨gap, cutGap⟩, member⟩ := mem_ways_seq member
  obtain ⟨afterSaying, ⟨saying, cutSaying⟩, member⟩ := mem_ways_seq member
  obtain ⟨⟨start, ps⟩, ⟨gap', cutGap'⟩, member⟩ := mem_ways_seq member
  obtain ⟨piece, isPiece, isAfter⟩ := get?_of_mem_ways_group member
  obtain ⟨d, digits, fraction, isNumeral, isDigits, isFraction⟩ :=
    exists_digits_of_takes_numeral ⟨start.before, ps, way, member, rfl⟩
  obtain rfl : piece = d :: digits ++ fraction :=
    List.append_cancel_right (isAfter.symm.trans isNumeral)
  refine ⟨d, digits, fraction, isPiece, ?_, isDigits, isFraction⟩
  exact ⟨pre ++ (name ++ (gap ++ (saying ++ gap'))), way.1.after, by
    rw [cut, cutName, cutGap, cutSaying, cutGap', isAfter]
    simp⟩

theorem mem_of_mem_trim {s : List Char} {c : Char} (member : c ∈ Text.trim s) : c ∈ s := by
  rw [Text.trim, Text.trimEnd, List.mem_reverse] at member
  have inStart := List.mem_reverse.1 ((List.dropWhile_sublist _).subset member)
  exact (List.dropWhile_sublist _).subset inStart

/-- The characters that numerals without a sign are made of. -/
def InUnsigned (c : Char) : Prop := Text.isDecimalDigit c = true ∨ c = '.'

theorem inUnsigned_of_mem_trim {d : Char} {digits fraction : List Char}
    (isDigits : ∀ c ∈ d :: digits, Text.isDecimalDigit c = true) (isFraction : IsFraction fraction) :
    ∀ c ∈ Text.trim (d :: digits ++ fraction), InUnsigned c := by
  intro c member
  rcases List.mem_append.1 (mem_of_mem_trim member) with inDigits | inFraction
  · exact .inl (isDigits c inDigits)
  · rcases isFraction with rfl | ⟨part, rfl, isPart⟩
    · cases inFraction
    · rcases List.mem_cons.1 inFraction with rfl | inPart
      · exact .inr rfl
      · exact .inl (isPart c inPart)

theorem exists_unsignedDecimal? {literal : List Char} (isPlain : ∀ c ∈ literal, InUnsigned c)
    {x : Float} (isRead : Numeral.decimal? literal = some x) :
    ∃ value, Numeral.unsignedDecimal? literal = some value ∧ value.toFloat false = x := by
  have unsigned : ∀ c ∈ literal.head?, c ≠ '-' ∧ c ≠ '+' := by
    intro c isHead
    have plain := isPlain c (List.mem_of_mem_head? isHead)
    constructor
    · rintro rfl
      exact absurd plain (by simp [InUnsigned]; decide)
    · rintro rfl
      exact absurd plain (by simp [InUnsigned]; decide)
  rw [Numeral.decimal?_of_unsigned unsigned] at isRead
  exact Option.map_eq_some_iff.1 isRead

/-! ## Phrases for conditions -/

/-- Does the phrase say the label, the operator and the value of a condition? -/
inductive Says (label : String) : Operator → Operand → String → Prop where
  | equals (value : String) :
      Says label .equals (.scalar (.text value)) (label ++ " = \"" ++ value ++ "\"")
  | contains (value : String) :
      Says label .contains (.scalar (.text value)) (label ++ " contains \"" ++ value ++ "\"")
  /-- A number is said by a numeral, whose nearest double it is. -/
  | compares (relation : Relation) {literal : String} {value : Decimal}
      (isPlain : ∀ c ∈ literal.toList, InUnsigned c)
      (isValue : Numeral.unsignedDecimal? literal.toList = some value) :
      Says label relation.operator (.scalar (.number (value.toFloat false)))
        (label ++ " " ++ String.ofList relation.sign ++ " " ++ literal)

/-- Is this a condition on the column with a phrase that says so? -/
structure Explained.Tells (e : Explained) (column : Column) : Prop where
  column_eq : e.condition.column = column.key
  isSaid : Says column.label e.condition.operator e.condition.value e.phrase

theorem says_describe_contains (label value : String) :
    Says label .contains (.scalar (.text value)) (describe label .contains value) := by
  have joined : " " ++ "contains" ++ " \"" = " contains \"" := rfl
  have isPhrase : describe label .contains value = label ++ " contains \"" ++ value ++ "\"" := by
    rw [← joined]
    simp only [describe, Operator.name, String.append_assoc]
  rw [isPhrase]
  exact .contains value

theorem says_describe_compares (label : String) (relation : Relation) {literal : String}
    {value : Decimal} (isPlain : ∀ c ∈ literal.toList, InUnsigned c)
    (isValue : Numeral.unsignedDecimal? literal.toList = some value) :
    Says label relation.operator (.scalar (.number (value.toFloat false)))
      (describe label relation.operator literal) := by
  have isPhrase : describe label relation.operator literal =
      label ++ " " ++ String.ofList relation.sign ++ " " ++ literal := by
    have joined : describe label relation.operator literal =
        label ++ (" " ++ String.ofList relation.sign ++ " ") ++ literal := by
      cases relation <;> rfl
    rw [joined]
    simp only [String.append_assoc]
  rw [isPhrase]
  exact .compares relation isPlain isValue

/-! ## The steps that find conditions -/

theorem capture_of_mem_textRules {rule : ColumnRule} (inRules : rule ∈ textRules) :
    rule.capture = .text ∧ (rule.operator = .equals ∨ rule.operator = .contains) := by
  simp only [textRules, columnRules, List.take_succ_cons, List.take_zero, List.mem_cons,
    List.not_mem_nil, or_false] at inRules
  rcases inRules with rfl | rfl | rfl | rfl | rfl
  · exact ⟨rfl, .inr rfl⟩
  · exact ⟨rfl, .inl rfl⟩
  · exact ⟨rfl, .inr rfl⟩
  · exact ⟨rfl, .inr rfl⟩
  · exact ⟨rfl, .inl rfl⟩

theorem tells_of_ruleCondition? {column : Column} {names : Pattern} {s : List Char}
    {rule : ColumnRule} {e : Explained} (inRules : rule ∈ columnRules)
    (isSome : ruleCondition? column names s rule = some e) : e.Tells column := by
  rw [ruleCondition?] at isSome
  cases isFound : find? (rule.pattern names) s with
  | none =>
    rw [isFound] at isSome
    cases isSome
  | some found =>
    rw [isFound] at isSome
    obtain ⟨value, isValue, rfl⟩ := Option.map_eq_some_iff.1 isSome
    refine ⟨rfl, ?_⟩
    rw [columnRules_eq, List.mem_append, List.mem_map] at inRules
    -- Clauses for texts keep what they remember; those that compare read it as a number.
    rcases inRules with inTextRules | ⟨relation, -, rfl⟩
    · obtain ⟨isText, isOperator⟩ := capture_of_mem_textRules inTextRules
      rw [isText] at isValue
      cases isValue
      rcases isOperator with isEquals | isContains
      · simp only [isEquals]
        exact .equals _
      · simp only [isContains]
        exact says_describe_contains _ _
    · obtain ⟨d, digits, fraction, isPiece, -, isDigits, isFraction⟩ :=
        exists_numeral_of_find? isFound
      have isPlain := inUnsigned_of_mem_trim isDigits isFraction
      rw [isPiece, Option.getD_some] at isValue ⊢
      obtain ⟨x, isRead, rfl⟩ := Option.map_eq_some_iff.1 isValue
      obtain ⟨decimal, isDecimal, rfl⟩ := exists_unsignedDecimal? isPlain isRead
      exact says_describe_compares column.label relation (by simpa using isPlain)
        (by simpa using isDecimal)

theorem tells_of_columnCondition? {s : List Char} {column : Column} {e : Explained}
    (isSome : columnCondition? s column = some e) : e.Tells column := by
  rw [columnCondition?] at isSome
  split at isSome
  · cases isSome
  · obtain ⟨rule, inRules, isRule⟩ := List.exists_of_findSome?_eq_some isSome
    exact tells_of_ruleCondition? inRules isRule

theorem mem_of_columnWithKey? {schema : Schema} {keys : List String} {column : Column}
    (isSome : columnWithKey? schema keys = some column) :
    column ∈ schema.columns ∧ Text.lowered column.key ∈ keys :=
  ⟨List.mem_of_find?_eq_some isSome, by simpa using List.find?_some isSome⟩

/-! ## The clauses for order and number -/

/-- Do these phrases say the sort of a plan?  It is on a column of the schema. -/
inductive SaysSort (schema : Schema) : Option SortKey → List String → Prop where
  | unsorted : SaysSort schema none []
  | sorted {column : Column} (member : column ∈ schema.columns) (order : SortOrder) :
      SaysSort schema (some ⟨column.key, order⟩)
        ["Sorted by " ++ column.label ++ " (" ++ order.name ++ ")"]

/-- Do these phrases say the limit of a plan? -/
inductive SaysLimit : Option Nat → List String → Prop where
  | unlimited : SaysLimit none []
  | limited (count : Nat) : SaysLimit (some count) ["Top " ++ toString count ++ " results"]

theorem saysSort_sortOf? (schema : Schema) (s : List Char) :
    SaysSort schema ((sortOf? schema s).map (·.value))
      ((sortOf? schema s).map (·.phrase)).toList := by
  rw [sortOf?]
  split
  · exact .unsorted
  · split
    · exact .unsorted
    · next column isColumn => exact .sorted (List.mem_of_find?_eq_some isColumn) _

theorem saysLimit_limitOf? (s : List Char) :
    SaysLimit ((limitOf? s).map (·.value)) ((limitOf? s).map (·.phrase)).toList := by
  rw [limitOf?]
  cases find? limitClause s with
  | none => exact .unlimited
  | some found => exact .limited _

end TableQuery.Question
