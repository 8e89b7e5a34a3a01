import Mathlib.Data.List.DropRight
import TableQuery.Proofs.Agent.History
import TableQuery.Proofs.Assoc.Keys

/-! # The order of results

What was answered since all results were forgotten tells which results are kept.  Of the answers
with one key the last is kept, and it stands where the first of them came up.  So the results are
listed oldest first unless some key came up before another one and was answered again after it.
-/

namespace TableQuery

/-- Does some key come up before another one, whichever end the keys are read from? -/
def Encloses (keys : List String) : Prop :=
  ∃ k ∈ keys, ∃ k' ∈ keys, ComesUpBefore keys k k' ∧ ComesUpBefore keys.reverse k k'

namespace AgentResult

variable {answers : List AgentResult} {a : AgentResult} {k : String}

/-! ## Answers that no later one replaces -/

/-- The answers that no later one has the key of, oldest first. -/
def standing : List AgentResult → List AgentResult
  | [] => []
  | answer :: later =>
    if answer.key ∈ later.map key then standing later else answer :: standing later

/-- The last of the answers with a key. -/
def latest? (answers : List AgentResult) (k : String) : Option AgentResult :=
  answers.reverse.find? (·.key = k)

theorem latest?_cons (k : String) (first : AgentResult) (later : List AgentResult) :
    latest? (first :: later) k =
      (latest? later k).or (if first.key = k then some first else none) := by
  rw [latest?, List.reverse_cons, List.find?_append, ← latest?]
  by_cases same : first.key = k <;> simp [same]

theorem latest?_concat (k : String) (earlier : List AgentResult) (last : AgentResult) :
    latest? (earlier ++ [last]) k = if last.key = k then some last else latest? earlier k := by
  rw [latest?, List.reverse_append, List.reverse_singleton, List.singleton_append,
    List.find?_cons, ← latest?]
  by_cases same : last.key = k <;> simp [same]

theorem latest?_eq_none_iff : latest? answers k = none ↔ k ∉ answers.map key := by
  rw [latest?, List.find?_eq_none]
  simp

theorem mem_standing_iff : a ∈ standing answers ↔ latest? answers a.key = some a := by
  induction answers with
  | nil => simp [standing, latest?]
  | cons first later inductionHypothesis =>
    rw [standing, latest?_cons]
    by_cases again : first.key ∈ later.map key
    · rw [if_pos again, inductionHypothesis]
      cases isLatest : latest? later a.key with
      | some other => simp
      | none =>
        have notAgain := latest?_eq_none_iff.1 isLatest
        have differ : first.key ≠ a.key := fun same => notAgain (same ▸ again)
        simp [differ]
    · rw [if_neg again, List.mem_cons, inductionHypothesis]
      cases isLatest : latest? later a.key with
      | some other =>
        have differ : a ≠ first := by
          rintro rfl
          rw [latest?_eq_none_iff.2 again] at isLatest
          cases isLatest
        simp [differ]
      | none =>
        simp only [reduceCtorEq, or_false, Option.none_or, Option.ite_none_right_eq_some,
          Option.some.injEq]
        constructor
        · rintro rfl
          exact ⟨rfl, rfl⟩
        · intro isFirst
          exact isFirst.2.symm

theorem mem_of_mem_standing (stands : a ∈ standing answers) : a ∈ answers :=
  List.mem_reverse.1 (List.mem_of_find?_eq_some (mem_standing_iff.1 stands))

/-- The answers that stand are in the order in which their keys come up from behind. -/
theorem pairwise_standing (answers : List AgentResult) :
    (standing answers).Pairwise fun a b =>
      ComesUpBefore (answers.map key).reverse b.key a.key := by
  induction answers with
  | nil => exact .nil
  | cons first later inductionHypothesis =>
    have given : ∀ a ∈ standing later, a.key ∈ (later.map key).reverse := fun a stands =>
      List.mem_reverse.2 (List.mem_map_of_mem (mem_of_mem_standing stands))
    have laterOrdered : (standing later).Pairwise fun a b =>
        ComesUpBefore ((later.map key).reverse ++ [first.key]) b.key a.key := by
      apply inductionHypothesis.imp_of_mem
      intro a b aStands bStands before
      exact before.append (given b bStands) (given a aStands) [first.key]
    rw [standing, List.map_cons, List.reverse_cons]
    by_cases again : first.key ∈ later.map key
    · rw [if_pos again]
      exact laterOrdered
    · rw [if_neg again, List.pairwise_cons]
      refine ⟨?_, laterOrdered⟩
      intro a stands
      apply comesUpBefore_of_new (given a stands)
      rwa [List.mem_reverse]

end AgentResult

namespace Runner

open AgentResult

variable {r : Runner} {answers : List AgentResult} {a : AgentResult}

/-! ## Stored answers -/

theorem results_storeAll_congr {other : Runner} (same : other.results = r.results)
    (answers : List AgentResult) :
    (other.storeAll answers).results = (r.storeAll answers).results := by
  induction answers generalizing r other with
  | nil => exact same
  | cons first rest inductionHypothesis =>
    apply inductionHypothesis
    rw [store, store, same]

theorem storeAll_concat (r : Runner) (answers : List AgentResult) (answer : AgentResult) :
    r.storeAll (answers ++ [answer]) = (r.storeAll answers).store answer := by
  rw [storeAll, List.foldl_append]
  rfl

theorem get?_storeAll (k : String) (answers : List AgentResult) :
    Assoc.get? k (r.storeAll answers).results =
      (latest? answers k).or (Assoc.get? k r.results) := by
  induction answers using List.reverseRecOn with
  | nil => rfl
  | append_singleton earlier last inductionHypothesis =>
    rw [storeAll_concat, store, Assoc.get?_insert, inductionHypothesis, latest?_concat]
    by_cases same : last.key = k <;> simp [same]

theorem keys_storeAll (noResults : r.results = []) (answers : List AgentResult) :
    Assoc.keys (r.storeAll answers).results = (answers.map key).eraseDups := by
  induction answers using List.reverseRecOn with
  | nil => simp [storeAll, noResults]
  | append_singleton earlier last inductionHypothesis =>
    rw [storeAll_concat, store, Assoc.keys_insert, inductionHypothesis, List.map_append,
      List.map_singleton, eraseDups_concat]

theorem IsKeyed.mem_resultList_iff (keyed : r.IsKeyed) :
    a ∈ r.resultList ↔ Assoc.get? a.key r.results = some a := by
  rw [Assoc.get?_eq_some_iff keyed.distinct, resultList, List.mem_map]
  constructor
  · rintro ⟨⟨k, result⟩, member, rfl⟩
    rw [← keyed.key_eq _ member]
    exact member
  · intro member
    exact ⟨(a.key, a), member, rfl⟩

theorem IsKeyed.map_key_resultList (keyed : r.IsKeyed) :
    r.resultList.map key = Assoc.keys r.results := by
  rw [resultList, Assoc.keys, List.map_map]
  exact List.map_congr_left fun entry member => (keyed.key_eq entry member).symm

/-- The results are the answers that stand, though not always in their order. -/
theorem resultList_storeAll_perm (noResults : r.results = []) (answers : List AgentResult) :
    (r.storeAll answers).resultList.Perm (standing answers) := by
  have keyed := (isKeyed_of_empty noResults).storeAll answers
  have distinct : (r.storeAll answers).resultList.Nodup := by
    apply List.Nodup.of_map key
    rw [keyed.map_key_resultList]
    exact keyed.distinct
  have distinct' : (standing answers).Nodup := by
    apply (pairwise_standing answers).imp
    rintro a b before rfl
    exact Nat.lt_irrefl _ before
  rw [List.perm_ext_iff_of_nodup distinct distinct']
  intro a
  rw [keyed.mem_resultList_iff, get?_storeAll, noResults, mem_standing_iff]
  simp [Assoc.get?]

theorem pairwise_resultList_storeAll (noResults : r.results = []) (answers : List AgentResult) :
    (r.storeAll answers).resultList.Pairwise fun a b =>
      ComesUpBefore (answers.map key) a.key b.key := by
  have keyed := (isKeyed_of_empty noResults).storeAll answers
  rw [← List.pairwise_map, keyed.map_key_resultList, keys_storeAll noResults]
  exact pairwise_eraseDups _

/-- The results are listed oldest first unless some key came up before another one and was
    answered again after it. -/
theorem resultList_storeAll_eq_standing_iff (noResults : r.results = [])
    (answers : List AgentResult) : (r.storeAll answers).resultList = standing answers ↔
      ¬ Encloses (answers.map key) := by
  have keyed := (isKeyed_of_empty noResults).storeAll answers
  have inOrder := pairwise_resultList_storeAll noResults answers
  have given : ∀ k, k ∈ (r.storeAll answers).resultList.map key ↔ k ∈ answers.map key := by
    intro k
    rw [keyed.map_key_resultList, keys_storeAll noResults, List.mem_eraseDups]
  constructor
  · rintro same ⟨k, here, k', here', before, before'⟩
    obtain ⟨a, aListed, rfl⟩ := List.mem_map.1 ((given k).2 here)
    obtain ⟨b, bListed, rfl⟩ := List.mem_map.1 ((given k').2 here')
    have fromBehind := pairwise_standing answers
    rw [← same] at fromBehind
    obtain ⟨i, iWithin, rfl⟩ := List.getElem_of_mem aListed
    obtain ⟨j, jWithin, rfl⟩ := List.getElem_of_mem bListed
    cases Nat.lt_trichotomy i j with
    | inl isBefore =>
      have behind := List.pairwise_iff_getElem.1 fromBehind i j iWithin jWithin isBefore
      exact Nat.lt_asymm before' behind
    | inr notBefore =>
      cases notBefore with
      | inl isSame =>
        subst isSame
        exact Nat.lt_irrefl _ before
      | inr isBehind =>
        have before'' := List.pairwise_iff_getElem.1 inOrder j i jWithin iWithin isBehind
        exact Nat.lt_asymm before before''
  · intro noneEnclosed
    have fromBehind : (r.storeAll answers).resultList.Pairwise fun a b =>
        ComesUpBefore (answers.map key).reverse b.key a.key := by
      apply inOrder.imp_of_mem
      intro a b aListed bListed before
      have aGiven := (given a.key).1 (List.mem_map_of_mem aListed)
      have bGiven := (given b.key).1 (List.mem_map_of_mem bListed)
      have differ : a.key ≠ b.key := by
        intro same
        rw [same] at before
        exact Nat.lt_irrefl _ before
      cases comesUpBefore_or (List.mem_reverse.2 aGiven) differ with
      | inl before' => exact absurd ⟨_, aGiven, _, bGiven, before, before'⟩ noneEnclosed
      | inr behind => exact behind
    apply List.Perm.eq_of_pairwise _ fromBehind (pairwise_standing answers)
      (resultList_storeAll_perm noResults answers)
    intro a b _ _ before behind
    exact absurd before (Nat.lt_asymm behind)

/-! ## Histories -/

/-- An action that was done, with the answers that it got. -/
structure Event where
  action : Action
  answers : List AgentResult

/-- What happens in the course of a history. -/
def events (r : Runner) : List Action → List Event
  | [] => []
  | action :: later => ⟨action, action.answers r⟩ :: events (action.apply r) later

/-- What happened since all results were forgotten for the last time. -/
def sinceForgotten (events : List Event) : List Event := events.rtakeWhile (!·.action.forgets)

/-- The answers that were got since all results were forgotten, oldest first. -/
def toldAnswers (events : List Event) : List AgentResult :=
  (sinceForgotten events).flatMap (·.answers)

theorem after_concat (r : Runner) (history : List Action) (action : Action) :
    r.after (history ++ [action]) = action.apply (r.after history) := by
  rw [after, List.foldl_append]
  rfl

theorem events_concat (r : Runner) (history : List Action) (action : Action) :
    r.events (history ++ [action]) =
      r.events history ++ [⟨action, action.answers (r.after history)⟩] := by
  induction history generalizing r with
  | nil => rfl
  | cons first later inductionHypothesis =>
    rw [List.cons_append, events, inductionHypothesis]
    rfl

theorem toldAnswers_concat (events : List Event) (event : Event) :
    toldAnswers (events ++ [event]) =
      if event.action.forgets then [] else toldAnswers events ++ event.answers := by
  rw [toldAnswers, sinceForgotten, List.rtakeWhile_concat]
  cases event.action.forgets <;> simp [toldAnswers, sinceForgotten]

theorem results_after (agents : List Agent) (history : List Action) :
    ((ofAgents agents).after history).results =
      ((ofAgents agents).storeAll (toldAnswers ((ofAgents agents).events history))).results := by
  induction history using List.reverseRecOn with
  | nil => rfl
  | append_singleton history action inductionHypothesis =>
    rw [after_concat, results_apply, events_concat, toldAnswers_concat]
    simp only
    by_cases forgets : action.forgets = true
    · rw [if_pos forgets, if_pos forgets]
      rfl
    · rw [if_neg forgets, if_neg forgets, results_storeAll_congr inductionHypothesis]
      simp only [storeAll, List.foldl_append]

/-- Whatever was done, the results are the last answers with their keys, listed in the order in
    which the keys came up for the first time.  That is oldest first just if no key came up before
    another one and was answered again after it. -/
theorem resultList_after_eq_standing_iff (agents : List Agent) (history : List Action) :
    let answers := toldAnswers ((ofAgents agents).events history)
    let listed := ((ofAgents agents).after history).resultList
    listed.Perm (standing answers) ∧
      (listed.Pairwise fun a b => ComesUpBefore (answers.map key) a.key b.key) ∧
      (listed = standing answers ↔ ¬ Encloses (answers.map key)) := by
  intro answers listed
  have isListed : listed = ((ofAgents agents).storeAll answers).resultList :=
    congrArg (List.map Prod.snd) (results_after agents history)
  rw [isListed]
  exact ⟨resultList_storeAll_perm rfl answers, pairwise_resultList_storeAll rfl answers,
    resultList_storeAll_eq_standing_iff rfl answers⟩

/-- A result that an agent gave anew is listed before one that is older. -/
theorem resultList_after_ne_standing_of_explain :
    let agents : List Agent := [⟨"explain", "Explain", none, "", .single⟩]
    let ask (rowId : String) : Action :=
      .execute .offline "explain" ⟨[("id", .text rowId)], by simp⟩ none
    let text := "This record shows: ... This is a standard entry in the dataset."
    let history := [ask "a", ask "b", ask "a"]
    toldAnswers ((ofAgents agents).events history) = [⟨"explain", .text "a", text⟩,
        ⟨"explain", .text "b", text⟩, ⟨"explain", .text "a", text⟩] ∧
      standing (toldAnswers ((ofAgents agents).events history)) =
        [⟨"explain", .text "b", text⟩, ⟨"explain", .text "a", text⟩] ∧
      ((ofAgents agents).after history).resultList =
        [⟨"explain", .text "a", text⟩, ⟨"explain", .text "b", text⟩] ∧
      ((ofAgents agents).after history).resultList ≠
        standing (toldAnswers ((ofAgents agents).events history)) := by
  refine ⟨rfl, rfl, rfl, ?_⟩
  intro same
  have sameIds : ["a", "b"] = ["b", "a"] :=
    congrArg (List.map fun result : AgentResult => result.rowId.display) same
  exact absurd sameIds (by decide)

end Runner

end TableQuery
