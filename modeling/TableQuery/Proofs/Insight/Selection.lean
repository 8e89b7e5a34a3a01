import Mathlib.Data.List.Basic
import TableQuery.Insight

/-! # Categories select insights

Whether a category is wanted decides about the insights of that category and nothing else: those
of the others stay what they are and where they are.  So what is said in some categories is picked
out of what is said in all of them, whatever the order in which they are named and however often.
-/

namespace TableQuery.Insight

variable {rows : List Row} {schema : Schema} {wanted others chosen : List InsightCategory}

/-! ## The insights of a category -/

theorem category_of_ofOutliers? {column : Column} {s : Statistics} {i : Insight}
    (said : ofOutliers? rows column s = some i) : i.category = .outliers := by
  rw [ofOutliers?, Option.ite_none_left_eq_some] at said
  rw [← Option.some.inj said.2]

theorem category_of_ofPattern? {column : Column} {i : Insight}
    (said : ofPattern? rows column = some i) : i.category = .patterns := by
  obtain ⟨_, -, rfl⟩ := Option.map_eq_some_iff.1 said
  rfl

theorem filter_ifWanted {category : InsightCategory} {insights : List Insight}
    (own : ∀ i ∈ insights, i.category = category) :
    (ifWanted wanted category insights).filter (·.category ∈ chosen) =
      ifWanted (wanted.filter (· ∈ chosen)) category insights := by
  by_cases isChosen : category ∈ chosen
  · have kept : ∀ i ∈ insights, decide (i.category ∈ chosen) = true := fun i member =>
      decide_eq_true (own i member ▸ isChosen)
    by_cases isWanted : category ∈ wanted <;>
      simp [ifWanted, isWanted, isChosen, List.filter_eq_self.2 kept]
  · have dropped : ∀ i ∈ insights, ¬ decide (i.category ∈ chosen) = true := fun i member isKept =>
      isChosen (own i member ▸ of_decide_eq_true isKept)
    by_cases isWanted : category ∈ wanted <;>
      simp [ifWanted, isWanted, isChosen, List.filter_eq_nil_iff.2 dropped]

theorem filter_ofNumberColumn (column : Column) :
    (ofNumberColumn rows wanted column).filter (·.category ∈ chosen) =
      ofNumberColumn rows (wanted.filter (· ∈ chosen)) column := by
  unfold ofNumberColumn
  cases statistics? rows column.key with
  | none => rfl
  | some s =>
    have areOutliers : ∀ i ∈ (ofOutliers? rows column s).toList, i.category = .outliers :=
      fun i member => category_of_ofOutliers? (Option.mem_toList.1 member)
    have areTrends : ∀ i ∈ [ofStatistics column s], i.category = .trends := by simp [ofStatistics]
    simp only [List.filter_append, filter_ifWanted areTrends, filter_ifWanted areOutliers]

/-! ## All that is said -/

/-- What is chosen of an analysis is the analysis in those wanted categories that are chosen. -/
theorem filter_analyze (nonempty : rows ≠ []) (chosen : List InsightCategory) :
    (analyze rows schema wanted).filter (·.category ∈ chosen) =
      analyze rows schema (wanted.filter (· ∈ chosen)) := by
  have isSummary : ∀ i ∈ [ofSize rows schema], i.category = .summary := by simp [ofSize]
  have arePatterns : ∀ i ∈ (schema.columnsOfType .string).filterMap (ofPattern? rows),
      i.category = .patterns := by
    intro i member
    obtain ⟨column, -, said⟩ := List.mem_filterMap.1 member
    exact category_of_ofPattern? said
  have isAdvice : ∀ i ∈ if rows.length < smallDataset then [fewData] else [],
      i.category = .recommendations := by
    split <;> simp [fewData]
  have isNonempty : rows.isEmpty = false := List.isEmpty_eq_false_iff.2 nonempty
  simp only [analyze, isNonempty, Bool.false_eq_true, if_false, List.filter_append,
    List.filter_flatMap, filter_ifWanted isSummary, filter_ofNumberColumn,
    filter_ifWanted arePatterns, filter_ifWanted isAdvice]

/-- Neither the order of the wanted categories matters nor how often one is named. -/
theorem analyze_congr (same : ∀ category, category ∈ wanted ↔ category ∈ others) :
    analyze rows schema wanted = analyze rows schema others := by
  have sameParts : ifWanted wanted = ifWanted others := by
    funext category insights
    simp only [ifWanted, List.contains_iff_mem, same]
  have sameColumns : ofNumberColumn rows wanted = ofNumberColumn rows others := by
    funext column
    simp only [ofNumberColumn, sameParts]
  simp only [analyze, sameParts, sameColumns]

theorem mem_all (category : InsightCategory) : category ∈ InsightCategory.all := by
  cases category <;> decide

/-- What is said in the wanted categories is what is said in all of them less the insights of the
    other categories. -/
theorem analyze_selects (nonempty : rows ≠ []) (schema : Schema) (wanted : List InsightCategory) :
    analyze rows schema wanted =
      (analyze rows schema InsightCategory.all).filter (·.category ∈ wanted) := by
  rw [filter_analyze nonempty]
  apply analyze_congr
  intro category
  simp [mem_all]

/-- Categories that are named twice, and in another order than their insights stand in. -/
theorem analyze_selects_repeated :
    let rows := Row.ofList [("region", .text "east"), ("amount", .number 100)] ::
      List.replicate 5 (.ofList [("region", .text "north"), ("amount", .number 10)])
    let schema : Schema := ⟨[⟨"region", .string, "Region", []⟩, ⟨"amount", .number, "Amount", []⟩],
      6, []⟩
    let wanted : List InsightCategory := [.patterns, .outliers, .patterns]
    rows ≠ [] ∧
      analyze rows schema wanted =
        (analyze rows schema InsightCategory.all).filter (·.category ∈ wanted) ∧
      (analyze rows schema wanted).map (·.title) =
        ["High Amount Values Detected", "Region Distribution"] ∧
      (analyze rows schema InsightCategory.all).map (·.title) = ["Data Overview",
        "Amount Statistics", "High Amount Values Detected", "Region Distribution",
        "Add More Data"] := by
  intro rows schema wanted
  exact ⟨List.cons_ne_nil _ _, analyze_selects (List.cons_ne_nil _ _) schema wanted,
    by decide +kernel, by decide +kernel⟩

end TableQuery.Insight
