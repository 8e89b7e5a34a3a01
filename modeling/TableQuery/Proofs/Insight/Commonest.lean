import Mathlib.Data.List.Forall2
import TableQuery.Proofs.Assoc.Keys
import TableQuery.Proofs.Insight.Selection

/-! # The commonest value

Rows are counted under the texts of their cells, and rows without a cell together with those whose
cell counts as empty.  A text that comes up again adds to its count where it stands, so the tally
has the texts in the order in which they came up.  The first of the greatest counts is then that of
the commonest text, and of the text that came up first where several are as common.
-/

namespace TableQuery

/-- The cells that are counted as if they were empty. -/
inductive Cell.CountsAsEmpty : Cell → Prop where
  | null : CountsAsEmpty .null
  | no : CountsAsEmpty (.bool false)
  | zero {x : Float} (isZero : x == 0) : CountsAsEmpty (.number x)
  | notANumber {x : Float} (isNaN : x.isNaN) : CountsAsEmpty (.number x)
  | noText : CountsAsEmpty (.text "")

theorem Cell.countsAsEmpty_iff {cell : Cell} : cell.CountsAsEmpty ↔ cell.isFalsy = true := by
  constructor
  · rintro (_ | _ | isZero | isNaN | _)
    · rfl
    · rfl
    · exact Bool.or_eq_true_iff.2 (.inl isZero)
    · exact Bool.or_eq_true_iff.2 (.inr isNaN)
    · rfl
  · intro isFalsy
    cases cell with
    | null => exact .null
    | bool b =>
      cases b with
      | false => exact .no
      | true => cases isFalsy
    | number x =>
      rcases Bool.or_eq_true_iff.1 isFalsy with isZero | isNaN
      · exact .zero isZero
      · exact .notANumber isNaN
    | text s =>
      obtain rfl := String.isEmpty_iff.1 isFalsy
      exact .noText

/-- The text under which a row is counted in a column. -/
inductive Row.CountsUnder (column : String) (row : Row) : String → Prop where
  | missing (isMissing : row.get? column = none) : CountsUnder column row ""
  | empty {cell : Cell} (isCell : row.get? column = some cell) (isEmpty : cell.CountsAsEmpty) :
      CountsUnder column row ""
  | shown {cell : Cell} (isCell : row.get? column = some cell) (notEmpty : ¬ cell.CountsAsEmpty) :
      CountsUnder column row cell.display

theorem Row.countsUnder_iff {column text : String} {row : Row} :
    row.CountsUnder column text ↔ Insight.bucket column row = text := by
  unfold Insight.bucket
  constructor
  · rintro (isMissing | ⟨isCell, isEmpty⟩ | ⟨isCell, notEmpty⟩)
    · rw [isMissing]
    · rw [isCell]
      exact if_pos (Cell.countsAsEmpty_iff.1 isEmpty)
    · rw [isCell]
      exact if_neg (mt Cell.countsAsEmpty_iff.2 notEmpty)
  · rintro rfl
    cases isCell : row.get? column with
    | none => exact .missing isCell
    | some cell =>
      show row.CountsUnder column (if cell.isFalsy then "" else cell.display)
      split
      · next isFalsy => exact .empty isCell (Cell.countsAsEmpty_iff.2 isFalsy)
      · next notFalsy => exact .shown isCell (mt Cell.countsAsEmpty_iff.1 notFalsy)

instance {column text : String} {row : Row} : Decidable (row.CountsUnder column text) :=
  decidable_of_iff _ Row.countsUnder_iff.symm

namespace Insight

/-! ## The tally -/

theorem tally_concat (texts : List String) (last : String) :
    tally (texts ++ [last]) =
      Assoc.insert last ((Assoc.get? last (tally texts)).getD 0 + 1) (tally texts) := by
  rw [tally, List.foldl_append]
  rfl

theorem keys_tally (texts : List String) : Assoc.keys (tally texts) = texts.eraseDups := by
  induction texts using List.reverseRecOn with
  | nil => rfl
  | append_singleton texts last inductionHypothesis =>
    rw [tally_concat, Assoc.keys_insert, inductionHypothesis, eraseDups_concat]

theorem getD_get?_tally (text : String) (texts : List String) :
    (Assoc.get? text (tally texts)).getD 0 = texts.count text := by
  induction texts using List.reverseRecOn with
  | nil => rfl
  | append_singleton texts last inductionHypothesis =>
    rw [tally_concat, Assoc.get?_insert, List.count_append]
    by_cases same : last = text
    · subst same
      simp [inductionHypothesis]
    · simp [same, inductionHypothesis]

/-- The tally has each text once, in the order in which they came up, with how often it stands. -/
theorem tally_eq (texts : List String) :
    tally texts = texts.eraseDups.map fun text => (text, texts.count text) := by
  have distinct : (Assoc.keys (tally texts)).Nodup := by
    rw [keys_tally]
    apply (pairwise_eraseDups texts).imp
    rintro text text' before rfl
    exact Nat.lt_irrefl _ before
  have isTally := Assoc.map_keys_get? distinct fun text count => (text, count.getD 0)
  simp only [keys_tally, getD_get?_tally, Option.getD_some, List.map_id'] at isTally
  exact isTally.symm

theorem mem_tally {texts : List String} {text : String} {count : Nat} :
    (text, count) ∈ tally texts ↔ text ∈ texts ∧ count = texts.count text := by
  rw [tally_eq, List.mem_map]
  constructor
  · rintro ⟨text, member, same⟩
    obtain ⟨rfl, rfl⟩ := Prod.mk.inj same
    exact ⟨List.mem_eraseDups.1 member, rfl⟩
  · rintro ⟨member, rfl⟩
    exact ⟨text, List.mem_eraseDups.2 member, rfl⟩

theorem pairwise_tally (texts : List String) :
    (tally texts).Pairwise fun a b => ComesUpBefore texts a.1 b.1 := by
  rw [tally_eq, List.pairwise_map]
  exact pairwise_eraseDups texts

/-! ## The greatest count -/

/-- Is it an entry with the greatest count, and the first of those? -/
def IsFirstGreatest (entries : List (String × Nat)) (best : String × Nat) : Prop :=
  ∃ before after, entries = before ++ best :: after ∧ (∀ e ∈ before, e.2 < best.2) ∧
    ∀ e ∈ after, e.2 ≤ best.2

theorem IsFirstGreatest.mem {entries : List (String × Nat)} {best : String × Nat}
    (isBest : IsFirstGreatest entries best) : best ∈ entries := by
  obtain ⟨before, after, rfl, -, -⟩ := isBest
  exact List.mem_append_right before List.mem_cons_self

theorem IsFirstGreatest.le {entries : List (String × Nat)} {best e : String × Nat}
    (isBest : IsFirstGreatest entries best) (member : e ∈ entries) : e.2 ≤ best.2 := by
  obtain ⟨before, after, rfl, less, notGreater⟩ := isBest
  rcases List.mem_append.1 member with isBefore | member
  · exact Nat.le_of_lt (less e isBefore)
  rcases List.mem_cons.1 member with rfl | isAfter
  · exact Nat.le_refl _
  · exact notGreater e isAfter

/-- An entry that comes last is the first greatest if its count is above all others. -/
theorem IsFirstGreatest.concat {entries : List (String × Nat)} {best : String × Nat}
    (isBest : IsFirstGreatest entries best) (last : String × Nat) :
    IsFirstGreatest (entries ++ [last]) (if best.2 < last.2 then last else best) := by
  by_cases greater : best.2 < last.2
  · rw [if_pos greater]
    refine ⟨entries, [], rfl, ?_, by simp⟩
    exact fun e member => Nat.lt_of_le_of_lt (isBest.le member) greater
  · obtain ⟨before, after, rfl, less, notGreater⟩ := isBest
    rw [if_neg greater]
    refine ⟨before, after ++ [last], by simp, less, ?_⟩
    intro e member
    rcases List.mem_append.1 member with isAfter | isLast
    · exact notGreater e isAfter
    · rw [List.mem_singleton.1 isLast]
      exact Nat.le_of_not_lt greater

theorem exists_isFirstGreatest {entries : List (String × Nat)} (nonempty : entries ≠ []) :
    ∃ best, commonest? entries = some best ∧ IsFirstGreatest entries best := by
  cases entries with
  | nil => exact absurd rfl nonempty
  | cons first rest =>
    refine ⟨_, rfl, ?_⟩
    -- What has been found so far is the first greatest of what has been looked at so far.
    induction rest using List.reverseRecOn with
    | nil => exact ⟨[], [], rfl, by simp, by simp⟩
    | append_singleton rest last inductionHypothesis =>
      rw [List.foldl_append]
      exact (inductionHypothesis (List.cons_ne_nil _ _)).concat last

/-! ## The insight -/

/-- Is it the text under which most rows are counted, how many are they, and does the first of
    them come before the first row of each text that is as common? -/
structure IsCommonest (rows : List Row) (column text : String) (count : Nat) : Prop where
  stands : ∃ row ∈ rows, row.CountsUnder column text
  count_eq : count = rows.countP (·.CountsUnder column text)
  greatest : ∀ other, rows.countP (·.CountsUnder column other) ≤ count
  first : ∀ other, other ≠ text → rows.countP (·.CountsUnder column other) = count →
    rows.findIdx (·.CountsUnder column text) < rows.findIdx (·.CountsUnder column other)

/-- Does the insight tell the commonest text of the column, and its count? -/
def TellsCommonest (rows : List Row) (column : Column) (i : Insight) : Prop :=
  ∃ text count share, IsCommonest rows column.key text count ∧
    i.data = some (.commonest column.key text count share) ∧
    i.description = "\"" ++ text ++ "\" is the most common value (" ++ share ++ "% of records)"

variable {rows : List Row} {column : String}

theorem count_map_bucket (text : String) :
    (rows.map (bucket column)).count text = rows.countP (·.CountsUnder column text) := by
  rw [List.count_eq_countP, List.countP_map]
  refine List.countP_congr fun row _ => ?_
  simp [Row.countsUnder_iff]

theorem idxOf_map_bucket (text : String) :
    (rows.map (bucket column)).idxOf text = rows.findIdx (·.CountsUnder column text) := by
  rw [List.idxOf, List.findIdx_map]
  congr 1
  funext row
  rw [Bool.eq_iff_iff]
  simp [Row.countsUnder_iff]

theorem isCommonest_of_isFirstGreatest {text : String} {count : Nat}
    (isBest : IsFirstGreatest (tally (rows.map (bucket column))) (text, count)) :
    IsCommonest rows column text count := by
  have isMember := mem_tally.1 isBest.mem
  constructor
  case stands =>
    obtain ⟨row, isRow, isText⟩ := List.mem_map.1 isMember.1
    exact ⟨row, isRow, Row.countsUnder_iff.2 isText⟩
  case count_eq => rw [isMember.2, count_map_bucket]
  case greatest =>
    intro other
    rw [← count_map_bucket]
    by_cases member : other ∈ rows.map (bucket column)
    · exact isBest.le (mem_tally.2 ⟨member, rfl⟩)
    · rw [List.count_eq_zero.2 member]
      exact Nat.zero_le _
  case first =>
    intro other differ same
    rw [← count_map_bucket] at same
    rw [← idxOf_map_bucket, ← idxOf_map_bucket]
    have isCounted : 0 < (rows.map (bucket column)).count other := by
      rw [same, isMember.2]
      exact List.count_pos_iff.2 isMember.1
    have inTally : (other, count) ∈ tally (rows.map (bucket column)) :=
      mem_tally.2 ⟨List.count_pos_iff.1 isCounted, same.symm⟩
    have inOrder := pairwise_tally (rows.map (bucket column))
    obtain ⟨before, after, isSplit, less, -⟩ := isBest
    rw [isSplit] at inTally inOrder
    rcases List.mem_append.1 inTally with isBefore | notBefore
    · exact absurd (less _ isBefore) (Nat.lt_irrefl _)
    rcases List.mem_cons.1 notBefore with isSame | isAfter
    · exact absurd (Prod.mk.inj isSame).1 differ
    · exact (List.pairwise_cons.1 (List.pairwise_append.1 inOrder).2.1).1 _ isAfter

theorem exists_tellsCommonest (nonempty : rows ≠ []) (column : Column) :
    ∃ i, ofPattern? rows column = some i ∧ TellsCommonest rows column i := by
  obtain ⟨row, isRow⟩ := List.exists_mem_of_ne_nil rows nonempty
  have someTally : tally (rows.map (bucket column.key)) ≠ [] :=
    List.ne_nil_of_mem (mem_tally.2 ⟨List.mem_map_of_mem isRow, rfl⟩)
  obtain ⟨⟨text, count⟩, isFound, isBest⟩ := exists_isFirstGreatest someTally
  rw [ofPattern?, isFound]
  exact ⟨_, rfl, text, count, _, isCommonest_of_isFirstGreatest isBest, rfl, rfl⟩

theorem forall₂_filterMap {α β : Type} {relates : α → β → Prop} {choose : α → Option β}
    {items : List α} (chosen : ∀ a ∈ items, ∃ b, choose a = some b ∧ relates a b) :
    List.Forall₂ relates items (items.filterMap choose) := by
  induction items with
  | nil => exact .nil
  | cons a rest inductionHypothesis =>
    rw [List.forall_mem_cons] at chosen
    obtain ⟨⟨b, isChosen, related⟩, later⟩ := chosen
    rw [List.filterMap_cons_some isChosen]
    exact .cons related (inductionHypothesis later)

/-- If patterns alone are wanted, all that is said is said of the columns of texts. -/
theorem analyze_patterns (nonempty : rows ≠ []) (schema : Schema) :
    analyze rows schema [.patterns] =
      (schema.columnsOfType .string).filterMap (ofPattern? rows) := by
  have isNonempty : rows.isEmpty = false := List.isEmpty_eq_false_iff.2 nonempty
  have noNumbers : ofNumberColumn rows [.patterns] = fun _ => [] := by
    funext column
    unfold ofNumberColumn
    cases statistics? rows column.key <;> rfl
  simp [analyze, isNonempty, noNumbers, ifWanted]

theorem filter_patterns_analyze (nonempty : rows ≠ []) {wanted : List InsightCategory}
    (isWanted : .patterns ∈ wanted) (schema : Schema) :
    (analyze rows schema wanted).filter (·.category = .patterns) =
      (schema.columnsOfType .string).filterMap (ofPattern? rows) := by
  calc (analyze rows schema wanted).filter (·.category = .patterns)
    _ = (analyze rows schema wanted).filter (·.category ∈ [InsightCategory.patterns]) := by
      simp only [List.mem_singleton]
    _ = analyze rows schema (wanted.filter (· ∈ [InsightCategory.patterns])) :=
      filter_analyze nonempty [.patterns]
    _ = analyze rows schema [.patterns] := by
      apply analyze_congr
      intro category
      rw [List.mem_filter, decide_eq_true_eq, List.mem_singleton]
      exact and_iff_right_of_imp fun isPatterns => isPatterns ▸ isWanted
    _ = (schema.columnsOfType .string).filterMap (ofPattern? rows) :=
      analyze_patterns nonempty schema

/-- Of the patterns in a dataset one is told for each column of texts, in their order: the text
    under which most rows are counted, and how many they are. -/
theorem patterns_tellCommonest (nonempty : rows ≠ []) {wanted : List InsightCategory}
    (isWanted : .patterns ∈ wanted) (schema : Schema) :
    List.Forall₂ (TellsCommonest rows) (schema.columnsOfType .string)
      ((analyze rows schema wanted).filter (·.category = .patterns)) := by
  rw [filter_patterns_analyze nonempty isWanted]
  exact forall₂_filterMap fun column _ => exists_tellsCommonest nonempty column

/-- A text and a truth value that are shown alike are counted together, and so are a zero and a
    missing cell.  Of the two texts with two rows the one whose first row comes first is told,
    though its second row comes last. -/
theorem patterns_tellCommonest_flags :
    let rows : List Row := [.ofList [("flag", .text "b")], .ofList [("flag", .bool true)],
      .ofList [("flag", .number 0)], .ofList [("other", .number 1)],
      .ofList [("flag", .text "true")]]
    let schema : Schema := ⟨[⟨"flag", .string, "Flag", []⟩], 5, []⟩
    let wanted : List InsightCategory := [.patterns, .summary]
    let patterns := (analyze rows schema wanted).filter (·.category = .patterns)
    rows ≠ [] ∧ .patterns ∈ wanted ∧
      List.Forall₂ (TellsCommonest rows) (schema.columnsOfType .string) patterns ∧
      patterns.map (·.description) =
        ["\"true\" is the most common value (40.0% of records)"] ∧
      rows.countP (·.CountsUnder "flag" "true") = 2 ∧
      rows.countP (·.CountsUnder "flag" "") = 2 := by
  intro rows schema wanted patterns
  have nonempty : rows ≠ [] := List.cons_ne_nil _ _
  have isWanted : .patterns ∈ wanted := List.mem_cons_self
  exact ⟨nonempty, isWanted, patterns_tellCommonest nonempty isWanted schema, by decide +kernel,
    by decide +kernel, by decide +kernel⟩

end Insight

end TableQuery
