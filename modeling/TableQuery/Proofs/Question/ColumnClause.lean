import TableQuery.Proofs.Question.ClauseText
import TableQuery.Proofs.Question.Origin

/-! # Where clauses for a column stand

A column has a condition just if a clause stands around one of its names.  What else stands in
front of the name is not looked at, be it a blank or a letter, so a clause for a column is one for
every column whose name is the end of its name.
-/

namespace TableQuery.Question

open Pattern

/-! ## The numbers that are read -/

theorem isSome_value?_of_find? {s : List Char}
    (asciiDigits : ∀ c ∈ s, Text.isDecimalDigit c = true → c.isDigit = true) {relation : Relation}
    {names : Pattern} {found : Found}
    (isFound : find? (relation.rule.pattern names) s = some found) :
    (Capture.number.value? (Text.trim ((found.pieces.get? 1).getD []))).isSome = true := by
  obtain ⟨d, digits, fraction, isPiece, within, isDigits, isFraction⟩ :=
    exists_numeral_of_find? isFound
  have allDigits : Numeral.AllDigits (d :: digits) := fun c member =>
    asciiDigits c (within.subset (List.mem_append_left _ member)) (isDigits c member)
  have digit : d.isDigit = true := allDigits d List.mem_cons_self
  have isPlain : ∀ c ∈ d :: digits ++ fraction, c.isDigit = true ∨ c = '.' := by
    intro c member
    cases List.mem_append.1 member with
    | inl inDigits => exact .inl (allDigits c inDigits)
    | inr inFraction =>
      rcases isFraction with rfl | ⟨part, rfl, isPart⟩
      · cases inFraction
      · refine (List.mem_cons.1 inFraction).symm.imp_left fun inPart => ?_
        exact asciiDigits c (within.subset (List.mem_append_right _ inFraction)) (isPart c inPart)
  have isTrimmed : Text.trim (d :: digits ++ fraction) = d :: digits ++ fraction := by
    refine Text.trim_eq_self_of_solid fun c member => ?_
    cases isPlain c member with
    | inl digit => exact Text.isBlank_of_isDigit digit
    | inr point => rw [point]; decide
  have isRead : (Numeral.unsignedDecimal? (d :: digits ++ fraction)).isSome = true := by
    rcases isFraction with rfl | ⟨part, rfl, isPart⟩
    · rw [List.append_nil, Numeral.unsignedDecimal?_digits (List.cons_ne_nil _ _) allDigits]
      rfl
    · have partDigits : Numeral.AllDigits part := fun c member => asciiDigits c
        (within.subset (List.mem_append_right _ (List.mem_cons_of_mem _ member))) (isPart c member)
      rw [Numeral.unsignedDecimal?_point (List.cons_ne_nil _ _) allDigits partDigits]
      rfl
  rw [isPiece, Option.getD_some, isTrimmed, Capture.value?, Option.isSome_map, List.cons_append,
    Numeral.decimal?_of_digit digit, Option.isSome_map]
  exact isRead

/-! ## The condition on a column -/

theorem namePattern?_of_mem {column : Column} {name : List Char}
    (isName : name ∈ columnNames column) :
    namePattern? column = some (choice ((columnNames column).map literal)) := by
  rw [namePattern?]
  cases isNames : columnNames column with
  | nil => exact absurd (isNames ▸ isName) List.not_mem_nil
  | cons first rest => rfl

/-- Does a clause that captures a text stand around a name of the column? -/
def SaysText (s : List Char) (column : Column) : Prop :=
  ∃ name ∈ columnNames column, ∃ before after, s = before ++ (name ++ after) ∧
    HasTextClause before after

/-- Is a name of the column compared with a number? -/
def Compares (s : List Char) (column : Column) : Prop :=
  ∃ name ∈ columnNames column, ∃ before after, s = before ++ (name ++ after) ∧
    BeginsComparison after

variable {s : List Char} {column : Column}

theorem saysText_or_compares_of_columnCondition? {e : Explained}
    (isSome : columnCondition? s column = some e) :
    SaysText s column ∨ Compares s column := by
  rw [columnCondition?, namePattern?] at isSome
  split at isSome
  case h_1 => cases isSome
  case h_2 names isNames =>
    have isPattern : names = choice ((columnNames column).map literal) := by
      split at isNames
      · cases isNames
      · exact (Option.some.inj isNames).symm
    obtain ⟨rule, inRules, isRule⟩ := List.exists_of_findSome?_eq_some isSome
    rw [ruleCondition?] at isRule
    split at isRule
    case h_1 => cases isRule
    case h_2 found isFound =>
      obtain ⟨place, way, ⟨before, cut, -⟩, isFirst, -⟩ := exists_way_of_find? isFound
      rw [isPattern] at isFirst
      obtain ⟨name, isName, start, after, isAfter, clause⟩ :=
        exists_clause_of_takes inRules (takes_of_prefers isFirst) before
      have isText : s = (before ++ start) ++ (name ++ after) := by
        rw [cut, isAfter, List.append_assoc]
      exact clause.imp (fun clause => ⟨name, isName, _, _, isText, clause⟩)
        fun compares => ⟨name, isName, _, _, isText, compares⟩

theorem exists_columnCondition?_of_rule {name : List Char} (isName : name ∈ columnNames column)
    {rule : ColumnRule} (inRules : rule ∈ columnRules)
    (isSome : (find? (rule.pattern (choice ((columnNames column).map literal))) s).isSome = true)
    (isRead : ∀ found, find? (rule.pattern (choice ((columnNames column).map literal))) s =
        some found →
      (rule.capture.value? (Text.trim ((found.pieces.get? 1).getD []))).isSome = true) :
    ∃ e, columnCondition? s column = some e := by
  obtain ⟨found, isFound⟩ := Option.isSome_iff_exists.1 isSome
  rw [columnCondition?, namePattern?_of_mem isName, ← Option.isSome_iff_exists,
    List.findSome?_isSome_iff]
  refine ⟨rule, inRules, ?_⟩
  rw [ruleCondition?, isFound, Option.isSome_map]
  exact isRead found isFound

theorem exists_columnCondition?_of_saysText (isSaid : SaysText s column) :
    ∃ e, columnCondition? s column = some e := by
  obtain ⟨name, isName, before, after, rfl, clause⟩ := isSaid
  obtain ⟨rule, inRules, isText, isSome⟩ := exists_rule_of_hasTextClause isName clause
  exact exists_columnCondition?_of_rule isName inRules isSome fun found _ => by rw [isText]; rfl

theorem exists_columnCondition?_of_compares (compares : Compares s column)
    (asciiDigits : ∀ c ∈ s, Text.isDecimalDigit c = true → c.isDigit = true) :
    ∃ e, columnCondition? s column = some e := by
  obtain ⟨name, isName, before, after, rfl, compared⟩ := compares
  obtain ⟨relation, isSome⟩ := exists_relation_of_beginsComparison isName compared before
  have inRules : relation.rule ∈ columnRules := by
    rw [columnRules_eq]
    exact List.mem_append_right _ (List.mem_map_of_mem relation.mem_inOrder)
  exact exists_columnCondition?_of_rule isName inRules isSome fun found isFound =>
    isSome_value?_of_find? asciiDigits isFound

/-! ## Plans -/

theorem exists_filter_plan {schema : Schema} {query : String}
    (someCondition : schema.columns.filterMap (columnCondition? (Text.lower query.toList)) ≠ []) :
    ∃ junction, (plan schema query).filter =
      some ⟨(schema.columns.filterMap (columnCondition? (Text.lower query.toList))).map
        (·.condition), junction⟩ := by
  obtain ⟨e, es, isCons⟩ := List.exists_cons_of_ne_nil someCondition
  have isSource : sourceOfQuery schema query = .clauses (e :: es) := by
    rw [sourceOfQuery, sourceOf, isCons]
  refine ⟨(sourceOfQuery schema query).junction (Text.lower query.toList), ?_⟩
  have isFilter : (plan schema query).filter =
      if (sourceOfQuery schema query).conditions.isEmpty then none
      else some ⟨(sourceOfQuery schema query).conditions,
        (sourceOfQuery schema query).junction (Text.lower query.toList)⟩ := rfl
  rw [isFilter, isSource, isCons]
  rfl

/-- The conditions on a column are those of a clause that stands around a name of the column,
    whatever is in front of it: a name that is only the end of a word counts as much as one that
    stands alone. -/
theorem plan_findsColumnClauses {schema : Schema} {column : Column}
    (member : column ∈ schema.columns) (query : String) :
    (∀ e, columnCondition? (Text.lower query.toList) column = some e →
      SaysText (Text.lower query.toList) column ∨ Compares (Text.lower query.toList) column) ∧
    (SaysText (Text.lower query.toList) column ∨ Compares (Text.lower query.toList) column ∧
        (∀ c ∈ Text.lower query.toList, Text.isDecimalDigit c = true → c.isDigit = true) →
      ∃ e f, columnCondition? (Text.lower query.toList) column = some e ∧
        e.condition.column = column.key ∧ (plan schema query).filter = some f ∧
        e.condition ∈ f.conditions) := by
  refine ⟨fun e isSome => saysText_or_compares_of_columnCondition? isSome, fun found => ?_⟩
  obtain ⟨e, isSome⟩ : ∃ e, columnCondition? (Text.lower query.toList) column = some e := by
    cases found with
    | inl isSaid => exact exists_columnCondition?_of_saysText isSaid
    | inr compared => exact exists_columnCondition?_of_compares compared.1 compared.2
  have inConditions : e ∈ schema.columns.filterMap (columnCondition? (Text.lower query.toList)) :=
    List.mem_filterMap.2 ⟨column, member, isSome⟩
  obtain ⟨junction, isFilter⟩ := exists_filter_plan (List.ne_nil_of_mem inConditions)
  exact ⟨e, _, isSome, (tells_of_columnCondition? isSome).column_eq, isFilter,
    List.mem_map_of_mem inConditions⟩

/-- A table with two columns one of whose names is the end of the other. -/
def sums : Schema where
  columns := [⟨"total", .number, "Total", []⟩, ⟨"subtotal", .number, "Subtotal", []⟩]
  rowCount := 0
  sampleRows := []

theorem plan_findsColumnClauses_subtotal :
    ⟨"total", .number, "Total", []⟩ ∈ sums.columns ∧
      ∃ e f, columnCondition? (Text.lower "subtotal > 5".toList) ⟨"total", .number, "Total", []⟩ =
        some e ∧ e.condition.column = "total" ∧ (plan sums "subtotal > 5").filter = some f ∧
        e.condition ∈ f.conditions := by
  have member : ⟨"total", .number, "Total", []⟩ ∈ sums.columns := List.mem_cons_self
  have isLower : Text.lower "subtotal > 5".toList = "subtotal > 5".toList := by decide +kernel
  have compares : Compares (Text.lower "subtotal > 5".toList) ⟨"total", .number, "Total", []⟩ := by
    rw [isLower]
    exact ⟨"total".toList, by decide +kernel, "sub".toList, _, rfl,
      @BeginsComparison.intro .above [' '] [' '] [] ">" '5' (by decide) (by decide) (by decide)
        (by decide)⟩
  exact ⟨member, (plan_findsColumnClauses member "subtotal > 5").2
    (.inr ⟨compares, by rw [isLower]; decide⟩)⟩

/-- Does the name stand in the text with no word that goes on in it? -/
def StandsAlone (name s : List Char) : Prop :=
  ∃ before after, s = before ++ (name ++ after) ∧ ∀ c ∈ before.getLast?, Text.isWordChar c = false

/-- A query about one column has a condition on another one, whose name does not stand alone. -/
theorem conditions_plan_subtotal :
    (plan sums "subtotal > 5").filter.map (fun f => f.conditions.map (·.column)) =
        some ["total", "subtotal"] ∧
      ∀ name ∈ columnNames ⟨"total", .number, "Total", []⟩,
        ¬ StandsAlone name (Text.lower "subtotal > 5".toList) := by
  refine ⟨by rfl, fun name isName => ?_⟩
  have isLower : Text.lower "subtotal > 5".toList = "subtotal > 5".toList := by decide +kernel
  have isTotal : columnNames ⟨"total", .number, "Total", []⟩ = ["total".toList] := by
    decide +kernel
  rw [isTotal, List.mem_singleton] at isName
  rw [isLower, isName]
  rintro ⟨before, after, cut, alone⟩
  have each : ∀ n ≤ "subtotal > 5".toList.length,
      "total".toList <+: "subtotal > 5".toList.drop n →
        ("subtotal > 5".toList.take n).getLast?.any Text.isWordChar = true := by
    decide
  have within : before.length ≤ "subtotal > 5".toList.length := by simp [cut]
  have inWord := each before.length within ⟨after, by simp [cut]⟩
  rw [cut, List.take_left] at inWord
  obtain ⟨c, isLast, isWord⟩ := (Option.any_eq_true _ _).1 inWord
  rw [alone c isLast] at isWord
  cases isWord

end TableQuery.Question
