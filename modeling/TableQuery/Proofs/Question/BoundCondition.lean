import TableQuery.Proofs.Numeral.Digits
import TableQuery.Proofs.Question.NumberClause

/-! # The condition on a column in a query of bounds

A query of bounds is in lower case as it is, and its numerals are read as their values.  So
the condition that is found for a column is that of the bound on it.
-/

namespace TableQuery.Question

open Pattern

variable {joiner : List Char} {bounds : List Bound}

/-! ## The texts of a bound -/

theorem Bound.WellFormed.numeral_head {b : Bound} (wellFormed : b.WellFormed) :
    ∃ d rest, b.numeral = d :: rest ∧ d.isDigit = true := by
  obtain ⟨d, digits, isWhole⟩ := List.exists_cons_of_ne_nil wellFormed.whole_ne_nil
  have digit := wellFormed.whole_digits d (by simp [isWhole])
  rw [Bound.numeral, isWhole]
  cases b.part <;> exact ⟨d, _, rfl, digit⟩

theorem Bound.WellFormed.trim_numeral {b : Bound} (wellFormed : b.WellFormed) :
    Text.trim b.numeral = b.numeral := by
  apply Text.trim_eq_self_of_solid
  intro c member
  rcases wellFormed.mem_numeral member with digit | rfl
  · exact Text.isBlank_of_isDigit digit
  · decide

theorem Bound.WellFormed.decimal?_numeral {b : Bound} (wellFormed : b.WellFormed) :
    Numeral.decimal? b.numeral = some b.value := by
  obtain ⟨d, rest, isCons, digit⟩ := wellFormed.numeral_head
  rw [isCons, Numeral.decimal?_of_digit digit, ← isCons, Bound.value]
  cases isPart : b.part with
  | none =>
    have isNumeral : b.numeral = b.whole := by simp [Bound.numeral, isPart]
    rw [isNumeral, Numeral.unsignedDecimal?_digits wellFormed.whole_ne_nil
      wellFormed.whole_digits]
    simp
  | some part =>
    have isNumeral : b.numeral = b.whole ++ '.' :: part := by simp [Bound.numeral, isPart]
    rw [isNumeral, Numeral.unsignedDecimal?_point wellFormed.whole_ne_nil
      wellFormed.whole_digits (wellFormed.part_digits part isPart)]
    simp

theorem Bound.isLowered_of_mem_written {b : Bound} (plain : IsPlainKey b.key)
    (wellFormed : b.WellFormed) {c : Char} (member : c ∈ b.written) : Text.IsLowered c := by
  simp only [Bound.written, List.mem_append, List.mem_cons] at member
  rcases member with inKey | rfl | inSign | rfl | inNumeral
  · exact Text.isLowered_of_isLower (plain.letters c inKey)
  · decide
  · revert c
    cases b.relation <;> decide
  · decide
  · rcases wellFormed.mem_numeral inNumeral with digit | rfl
    · exact Text.isLowered_of_isDigit digit
    · decide

theorem isLowered_of_mem_boundQuery (isJoiner : IsJoiner joiner) (writable : Writable bounds)
    {c : Char} (member : c ∈ boundQuery joiner bounds) : Text.IsLowered c := by
  induction bounds with
  | nil => cases member
  | cons b rest inductionHypothesis =>
    have here : c ∈ b.written → Text.IsLowered c :=
      Bound.isLowered_of_mem_written (writable.plain b (by simp)) (writable.wellFormed b (by simp))
    cases rest with
    | nil =>
      rw [boundQuery_singleton] at member
      exact here member
    | cons second rest =>
      simp only [boundQuery_cons_cons, List.mem_append, List.mem_cons] at member
      rcases member with inBound | rfl | inJoiner | rfl | later
      · exact here inBound
      · decide
      · exact Text.isLowered_of_isLower (isJoiner.letters c inJoiner)
      · decide
      · exact inductionHypothesis writable.tail later

theorem lower_boundQuery (isJoiner : IsJoiner joiner) (writable : Writable bounds) :
    Text.lower (boundQuery joiner bounds) = boundQuery joiner bounds :=
  Text.lower_eq_self fun _ member => isLowered_of_mem_boundQuery isJoiner writable member

/-! ## The names of a column -/

theorem spaceCapitals_eq_self {s : List Char} (letters : ∀ c ∈ s, c.isLower = true) :
    Column.spaceCapitals s = s := by
  induction s with
  | nil => rfl
  | cons c rest inductionHypothesis =>
    have letter := letters c (by simp)
    have small : Text.isUppercase c = false :=
      Text.of_isLower (motive := fun c => Text.isUppercase c = false) (by decide) letter
    have others := inductionHypothesis fun d member => letters d (by simp [member])
    rw [Column.spaceCapitals] at others ⊢
    rw [List.flatMap_cons, small, others]
    rfl

/-- The label of a key in small letters is the key but for its first letter. -/
theorem lower_labelOfKey {key : String} (nonempty : key.toList ≠ [])
    (letters : ∀ c ∈ key.toList, c.isLower = true) :
    Text.lower (Column.labelOfKey key).toList = key.toList := by
  obtain ⟨c, rest, isCons⟩ := List.exists_cons_of_ne_nil nonempty
  rw [isCons] at letters
  have letter := letters c (by simp)
  have capital : Text.upperChar c = [c.toUpper] ∧ c.toUpper ≠ Text.capitalSigma ∧
      Text.lowerChar c.toUpper = [c] :=
    Text.of_isLower (motive := fun c => Text.upperChar c = [c.toUpper] ∧
      c.toUpper ≠ Text.capitalSigma ∧ Text.lowerChar c.toUpper = [c]) (by decide) letter
  obtain ⟨isUpper, notSigma, isLower⟩ := capital
  have lettersRest : ∀ d ∈ rest, d.isLower = true := fun d member => letters d (by simp [member])
  rw [Column.labelOfKey, isCons]
  simp only [spaceCapitals_eq_self lettersRest, isUpper, String.toList_ofList, List.cons_append,
    List.nil_append]
  rw [Text.lower, Text.lowerFrom, Text.lowerFrom_eq_self fun d member =>
    Text.isLowered_of_isLower (lettersRest d member)]
  simp [notSigma, isLower]

theorem namePattern?_eq_literal {column : Column} (nonempty : column.key.toList ≠ [])
    (letters : ∀ c ∈ column.key.toList, c.isLower = true)
    (label : column.label = Column.labelOfKey column.key) :
    namePattern? column = some (literal column.key.toList) := by
  have isKey : Text.lower column.key.toList = column.key.toList :=
    Text.lower_eq_self fun c member => Text.isLowered_of_isLower (letters c member)
  have names : columnNames column = [column.key.toList] := by
    rw [columnNames, isKey, label, lower_labelOfKey nonempty letters]
    simp [nonempty]
  rw [namePattern?, names]
  rfl

/-! ## What the clauses of a column find -/

theorem exists_cut_of_mem (joiner : List Char) {b : Bound} (member : b ∈ bounds) :
    ∃ before tail, EndsWord tail ∧
      boundQuery joiner bounds = before ++ (b.written ++ tail) := by
  induction bounds with
  | nil => cases member
  | cons first rest inductionHypothesis =>
    cases rest with
    | nil =>
      obtain rfl : b = first := by simpa using member
      exact ⟨[], [], .inl rfl, by simp⟩
    | cons second rest =>
      rw [boundQuery_cons_cons]
      rcases List.mem_cons.1 member with rfl | later
      · exact ⟨[], _, .inr ⟨_, rfl⟩, rfl⟩
      · obtain ⟨before, tail, ends, cut⟩ := inductionHypothesis later
        rw [cut]
        exact ⟨first.written ++ ' ' :: (joiner ++ ' ' :: before), tail, ends, by simp⟩

theorem find?_key_eq_some (distinct : (bounds.map (·.key)).Nodup) {b : Bound}
    (member : b ∈ bounds) : bounds.find? (·.key = b.key) = some b := by
  induction bounds with
  | nil => cases member
  | cons first rest inductionHypothesis =>
    rw [List.map_cons, List.nodup_cons] at distinct
    rcases List.mem_cons.1 member with rfl | later
    · simp
    · have differ : first.key ≠ b.key := fun same =>
        distinct.1 (List.mem_map.2 ⟨b, later, same.symm⟩)
      rw [List.find?_cons_of_neg (by simpa using differ)]
      exact inductionHypothesis distinct.2 later

section

variable {key : List Char} (isJoiner : IsJoiner joiner) (writable : Writable bounds)
  (keyNonempty : key ≠ []) (keyLetters : ∀ c ∈ key, c.isLower = true)

include isJoiner writable keyNonempty keyLetters

/-- A clause for a relation is not found where no bound on its column has the relation. -/
theorem find?_rule_eq_none {relation : Relation}
    (others : ∀ b ∈ bounds, key <:+ b.key.toList → b.relation ≠ relation) :
    find? (relation.rule.pattern (literal key)) (boundQuery joiner bounds) = none := by
  refine find?_eq_none fun place ⟨before, cut⟩ => ways_eq_nil_of_not_takes fun rest takes => ?_
  obtain ⟨b, member, isRelation, suffix, -⟩ :=
    exists_bound_of_takes isJoiner writable keyNonempty keyLetters cut takes
  exact others b member suffix isRelation

/-- The clause for the relation of the only bound on its column captures the numeral. -/
theorem find?_rule_eq_some {b : Bound} (member : b ∈ bounds) (isKey : key = b.key.toList)
    (only : ∀ c ∈ bounds, key <:+ c.key.toList → c = b) :
    ∃ found, find? (b.relation.rule.pattern (literal key)) (boundQuery joiner bounds) = some found ∧
      found.pieces.get? 1 = some b.numeral := by
  obtain ⟨before, tail, ends, cut⟩ := exists_cut_of_mem joiner member
  obtain ⟨stop, start, first⟩ :=
    prefers_rule (writable.wellFormed b member) ends key before.reverse
  have isFound := isSome_find? (ne_nil_of_prefers first)
  have same : before ++ (key ++ ' ' :: (b.relation.sign ++ ' ' :: (b.numeral ++ tail))) =
      boundQuery joiner bounds := by
    rw [cut, isKey]
    simp [Bound.written]
  rw [same] at isFound
  obtain ⟨found, isFound⟩ := Option.isSome_iff_exists.1 isFound
  obtain ⟨⟨before', after'⟩, way, ⟨pre, cut', isBefore⟩, isFirst, rfl⟩ :=
    exists_way_of_find? isFound
  -- The first match may stand elsewhere than `b`, but it too is at a bound on the column.
  obtain ⟨c, inBounds, -, suffix, tail', ends', rfl⟩ :=
    exists_bound_of_takes isJoiner writable keyNonempty keyLetters cut' (takes_of_prefers isFirst)
  obtain rfl := only c inBounds suffix
  obtain ⟨stop', start', first'⟩ := prefers_rule (writable.wellFormed c member) ends' key before'
  obtain rfl := Option.some.inj (isFirst.symm.trans first')
  exact ⟨_, isFound, by simp [Found.ofWay, Pieces.get?]⟩

end

/-- The words for the condition of a bound. -/
def Bound.phrase (b : Bound) : String :=
  describe (Column.labelOfKey b.key) b.relation.operator (String.ofList b.numeral)

/-- The condition of a bound with the words for it. -/
def Bound.explained (b : Bound) : Explained := ⟨b.condition, b.phrase⟩

theorem ruleCondition?_eq_none {column : Column} {names : Pattern} {s : List Char}
    {rule : ColumnRule} (notFound : find? (rule.pattern names) s = none) :
    ruleCondition? column names s rule = none := by
  rw [ruleCondition?, notFound]

theorem findSome?_eq_some_of_unique {α β : Type} {items : List α} {test : α → Option β} {a : α}
    {b : β} (member : a ∈ items) (here : test a = some b)
    (elsewhere : ∀ other ∈ items, other ≠ a → test other = none) :
    items.findSome? test = some b := by
  induction items with
  | nil => cases member
  | cons first rest inductionHypothesis =>
    by_cases same : first = a
    · rw [same, List.findSome?_cons, here]
    · have later : a ∈ rest := (List.mem_cons.1 member).resolve_left (Ne.symm same)
      rw [List.findSome?_cons, elsewhere first (by simp) same]
      exact inductionHypothesis later fun other inRest => elsewhere other (by simp [inRest])

/-- The condition on a column is that of the bound on it, if there is one. -/
theorem columnCondition?_boundQuery (isJoiner : IsJoiner joiner) (writable : Writable bounds)
    (distinct : (bounds.map (·.key)).Nodup) {column : Column} (plain : IsPlainKey column.key)
    (label : column.label = Column.labelOfKey column.key)
    (suffixFree : ∀ b ∈ bounds, column.key.toList <:+ b.key.toList → column.key = b.key) :
    columnCondition? (boundQuery joiner bounds) column =
      (bounds.find? (·.key = column.key)).map Bound.explained := by
  have noText : textRules.findSome? (ruleCondition? column (literal column.key.toList)
      (boundQuery joiner bounds)) = none := by
    rw [List.findSome?_eq_none_iff]
    intro rule member
    exact ruleCondition?_eq_none
      (find?_textRule_eq_none isJoiner writable plain.ne_nil plain.letters member)
  rw [columnCondition?, namePattern?_eq_literal plain.ne_nil plain.letters label]
  simp only [columnRules_eq, List.findSome?_append, noText, Option.none_or, List.findSome?_map]
  cases isBound : bounds.find? (·.key = column.key) with
  | none =>
    rw [List.findSome?_eq_none_iff.2, Option.map_none]
    intro relation _
    refine ruleCondition?_eq_none
      (find?_rule_eq_none isJoiner writable plain.ne_nil plain.letters fun b member suffix => ?_)
    have notKey := List.find?_eq_none.1 isBound b member
    exact absurd (suffixFree b member suffix).symm (by simpa using notKey)
  | some b =>
    have member := List.mem_of_find?_eq_some isBound
    have isKey : b.key = column.key := by simpa using List.find?_some isBound
    have only : ∀ c ∈ bounds, column.key.toList <:+ c.key.toList → c = b := by
      intro c inBounds suffix
      have found := find?_key_eq_some distinct inBounds
      rw [← suffixFree c inBounds suffix, isBound] at found
      exact (Option.some.inj found).symm
    rw [Option.map_some]
    refine findSome?_eq_some_of_unique b.relation.mem_inOrder ?_ fun relation _ differs => ?_
    · obtain ⟨found, isFound, captured⟩ := find?_rule_eq_some isJoiner writable plain.ne_nil
        plain.letters member (by rw [isKey]) only
      have wellFormed := writable.wellFormed b member
      simp only [Function.comp_apply, ruleCondition?, isFound, captured, Option.getD_some,
        wellFormed.trim_numeral]
      have isValue : b.relation.rule.capture.value? b.numeral = some (.number b.value) := by
        show (Numeral.decimal? b.numeral).map Cell.number = _
        rw [wellFormed.decimal?_numeral, Option.map_some]
      rw [isValue, Option.map_some, label, ← isKey]
      rfl
    · refine ruleCondition?_eq_none
        (find?_rule_eq_none isJoiner writable plain.ne_nil plain.letters
          fun c inBounds suffix => ?_)
      rw [only c inBounds suffix]
      exact differs.symm

end TableQuery.Question
