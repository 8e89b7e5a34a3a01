import TableQuery.Proofs.Outcome.Selection

/-! # Filters combine as their conditions do

Rows that pass filters one after the other are those that satisfy each of them, in their order.
So the laws of filters are laws of what they ask of one row.  The only exception to logic is
the filter without conditions: every row satisfies it, also where one condition of it must hold.
-/

namespace TableQuery.Filter

variable {junction : Junction} {a b : List Condition} {row : Row}

/-! ## What conditions ask of a row together -/

theorem satisfied_all_append :
    Satisfied ⟨a ++ b, .all⟩ row ↔ Satisfied ⟨a, .all⟩ row ∧ Satisfied ⟨b, .all⟩ row := by
  simp only [Satisfied, List.forall_mem_append]

theorem satisfied_any_append (nonempty : a ≠ []) (nonempty' : b ≠ []) :
    Satisfied ⟨a ++ b, .any⟩ row ↔ Satisfied ⟨a, .any⟩ row ∨ Satisfied ⟨b, .any⟩ row := by
  -- Were one of the lists empty, the right side would hold of every row.
  simp only [Satisfied, List.append_eq_nil_iff, nonempty, nonempty', and_self, false_or,
    List.mem_append, or_and_right, exists_or]

theorem satisfied_congr (same : ∀ c, c ∈ a ↔ c ∈ b) :
    Satisfied ⟨a, junction⟩ row ↔ Satisfied ⟨b, junction⟩ row := by
  have sameEmpty : a = [] ↔ b = [] := by
    simp only [List.eq_nil_iff_forall_not_mem, same]
  cases junction with
  | all => simp only [Satisfied, same]
  | any => simp only [Satisfied, sameEmpty, same]

/-! ## What filters keep -/

section

variable {f g : Filter} {entries : List Entry}

theorem keep_eq_filter_satisfied (f : Filter) (entries : List Entry) :
    f.keep entries = entries.filter fun e => f.Satisfied e.row := by
  rw [keep_eq_filter]
  refine List.filter_congr fun e _ => ?_
  rw [Bool.eq_iff_iff, accepts_iff, decide_eq_true_eq]

theorem mem_keep {e : Entry} : e ∈ f.keep entries ↔ e ∈ entries ∧ f.Satisfied e.row := by
  simp only [keep_eq_filter_satisfied, List.mem_filter, decide_eq_true_eq]

theorem keep_keep (f g : Filter) (entries : List Entry) :
    f.keep (g.keep entries) = entries.filter fun e => g.Satisfied e.row ∧ f.Satisfied e.row := by
  simp only [keep_eq_filter_satisfied, List.filter_filter]
  refine List.filter_congr fun e _ => ?_
  rw [Bool.decide_and, Bool.and_comm]

theorem keep_congr (same : ∀ e ∈ entries, f.Satisfied e.row ↔ g.Satisfied e.row) :
    f.keep entries = g.keep entries := by
  rw [keep_eq_filter_satisfied, keep_eq_filter_satisfied]
  exact List.filter_congr fun e member => decide_eq_decide.2 (same e member)

end

/-- The rows that filters leave when they are applied one after the other. -/
def keepEach : List Filter → List Entry → List Entry
  | [], entries => entries
  | f :: rest, entries => keepEach rest (f.keep entries)

theorem keepEach_eq_filter (filters : List Filter) (entries : List Entry) :
    keepEach filters entries = entries.filter fun e => ∀ f ∈ filters, f.Satisfied e.row := by
  induction filters generalizing entries with
  | nil => simp [keepEach]
  | cons f rest inductionHypothesis =>
    rw [keepEach, inductionHypothesis, keep_eq_filter_satisfied, List.filter_filter]
    refine List.filter_congr fun e _ => ?_
    rw [← Bool.decide_and, decide_eq_decide, List.forall_mem_cons, and_comm]

open Classical in
/-- Filters one after the other keep, in their order, the rows that satisfy each of them.  So
    conditions that must all hold can be asked for in two steps, and of conditions one of which
    must hold each part keeps its share, if no part is empty.  Neither the order of conditions,
    nor how often one is named, nor the order of filters matters, and a filter keeps all that it
    has kept. -/
theorem keepEach_followsLogic (entries : List Entry) :
    (∀ filters, keepEach filters entries =
      entries.filter fun e => ∀ f ∈ filters, f.Satisfied e.row) ∧
    (∀ a b, keep ⟨a ++ b, .all⟩ entries = keep ⟨b, .all⟩ (keep ⟨a, .all⟩ entries)) ∧
    (∀ a b, a ≠ [] → b ≠ [] → keep ⟨a ++ b, .any⟩ entries =
      entries.filter fun e => e ∈ keep ⟨a, .any⟩ entries ∨ e ∈ keep ⟨b, .any⟩ entries) ∧
    (∀ junction a b, (∀ c, c ∈ a ↔ c ∈ b) →
      keep ⟨a, junction⟩ entries = keep ⟨b, junction⟩ entries) ∧
    (∀ f g : Filter, f.keep (g.keep entries) = g.keep (f.keep entries)) ∧
    ∀ f : Filter, f.keep (f.keep entries) = f.keep entries := by
  refine ⟨fun filters => ?each, fun a b => ?all, fun a b nonempty nonempty' => ?any,
    fun junction a b same => ?conditions, fun f g => ?filters, fun f => ?again⟩
  case each =>
    rw [keepEach_eq_filter]
  case all =>
    rw [keep_keep, keep_eq_filter_satisfied]
    exact List.filter_congr fun e _ => decide_eq_decide.2 satisfied_all_append
  case any =>
    rw [keep_eq_filter_satisfied]
    refine List.filter_congr fun e member => ?_
    rw [decide_eq_decide, satisfied_any_append nonempty nonempty', mem_keep, mem_keep]
    simp only [member, true_and]
  case conditions => exact keep_congr fun e _ => satisfied_congr same
  case filters =>
    rw [keep_keep, keep_keep]
    exact List.filter_congr fun e _ => decide_eq_decide.2 and_comm
  case again =>
    rw [keep_keep, keep_eq_filter_satisfied]
    exact List.filter_congr fun e _ => decide_eq_decide.2 (and_self_iff)

open Classical in
/-- Of these orders the country of the first and the total of the second are found, and the last
    has neither. -/
theorem keepEach_followsLogic_orders :
    let orders := Entry.ofRows [.ofList [("country", .text "USA"), ("total", .number 80)],
      .ofList [("country", .null), ("total", .number 950)], .ofList [("id", .number 4)]]
    let fromUsa : List Condition := [⟨"country", .equals, .scalar (.text "usa")⟩]
    let great : List Condition :=
      [⟨"total", .between, .scalar (.number 900)⟩, ⟨"total", .gt, .scalar (.number 900)⟩]
    fromUsa ≠ [] ∧ great ≠ [] ∧
      (keep ⟨fromUsa ++ great, .any⟩ orders = orders.filter fun e =>
        e ∈ keep ⟨fromUsa, .any⟩ orders ∨ e ∈ keep ⟨great, .any⟩ orders) ∧
      positions (keep ⟨fromUsa ++ great, .any⟩ orders) = [0, 1] ∧
      (∀ c, c ∈ great ++ great ↔ c ∈ great) ∧
      keep ⟨great ++ great, .any⟩ orders = keep ⟨great, .any⟩ orders := by
  intro orders fromUsa great
  obtain ⟨-, -, any, conditions, -, -⟩ := keepEach_followsLogic orders
  have again : ∀ c, c ∈ great ++ great ↔ c ∈ great := by simp
  exact ⟨List.cons_ne_nil _ _, List.cons_ne_nil _ _,
    any fromUsa great (List.cons_ne_nil _ _) (List.cons_ne_nil _ _), by decide +kernel, again,
    conditions .any _ _ again⟩

end TableQuery.Filter
