import TableQuery.Proofs.Agent.History

/-! # Keys of results

The key of a result is the id of its agent and the text of its row's id with a dash between them.
Keys of different agents are the same just if one id is the other with a dash and more behind it,
and that more stands with a dash before the other row's text.  A result loses its place to one of
another agent where their keys are the same, and nowhere else.
-/

namespace TableQuery

namespace AgentResult

/-- Is the second agent's id the first one's with a dash and more behind it, and does that more,
    with a dash and the second row's text behind it, make the first row's text? -/
def Reaches (a b : AgentResult) : Prop :=
  ∃ more, b.agentId = a.agentId ++ "-" ++ more ∧ a.rowId.display = more ++ "-" ++ b.rowId.display

/-- Does the key of one of two results of different agents reach that of the other? -/
def Meets (a b : AgentResult) : Prop := a.Reaches b ∨ b.Reaches a

theorem key_eq_of_reaches {a b : AgentResult} (reaches : a.Reaches b) : a.key = b.key := by
  obtain ⟨more, isAgent, isRow⟩ := reaches
  rw [key, key, isAgent, isRow]
  simp only [String.append_assoc]

theorem exists_more_of_longer {s t more u v : List Char} (differ : s ≠ t)
    (isLonger : t = s ++ more) (isRest : '-' :: u = more ++ '-' :: v) :
    ∃ more, t = s ++ '-' :: more ∧ u = more ++ '-' :: v := by
  cases more with
  | nil => exact absurd (isLonger.trans (List.append_nil s)).symm differ
  | cons c more =>
    rw [List.cons_append, List.cons.injEq] at isRest
    obtain ⟨rfl, isRest⟩ := isRest
    exact ⟨more, isLonger, isRest⟩

theorem exists_more_of_append {s t u v : List Char} (differ : s ≠ t)
    (same : s ++ '-' :: u = t ++ '-' :: v) :
    (∃ more, t = s ++ '-' :: more ∧ u = more ++ '-' :: v) ∨
      ∃ more, s = t ++ '-' :: more ∧ v = more ++ '-' :: u := by
  rcases List.append_eq_append_iff.1 same with ⟨more, isLonger, isRest⟩ | ⟨more, isLonger, isRest⟩
  · exact .inl (exists_more_of_longer differ isLonger isRest)
  · exact .inr (exists_more_of_longer differ.symm isLonger isRest)

theorem toList_key (a : AgentResult) :
    a.key.toList = a.agentId.toList ++ '-' :: a.rowId.display.toList := by
  simp [key, String.toList_append]

theorem reaches_of_toList {a b : AgentResult} {more : List Char}
    (isAgent : b.agentId.toList = a.agentId.toList ++ '-' :: more)
    (isRow : a.rowId.display.toList = more ++ '-' :: b.rowId.display.toList) : a.Reaches b := by
  refine ⟨String.ofList more, ?_, ?_⟩
  · rw [← String.toList_inj, isAgent]
    simp [String.toList_append]
  · rw [← String.toList_inj, isRow]
    simp [String.toList_append]

/-- Results of different agents have the same key just if their keys meet. -/
theorem key_eq_iff {a b : AgentResult} (differ : a.agentId ≠ b.agentId) :
    a.key = b.key ↔ a.Meets b := by
  constructor
  · intro same
    have differ' : a.agentId.toList ≠ b.agentId.toList :=
      fun same => differ (String.toList_inj.1 same)
    have same' : a.agentId.toList ++ '-' :: a.rowId.display.toList =
        b.agentId.toList ++ '-' :: b.rowId.display.toList := by
      rw [← toList_key, ← toList_key, same]
    rcases exists_more_of_append differ' same' with ⟨more, isAgent, isRow⟩ | ⟨more, isAgent, isRow⟩
    · exact .inl (reaches_of_toList isAgent isRow)
    · exact .inr (reaches_of_toList isAgent isRow)
  · rintro (reaches | reaches)
    · exact key_eq_of_reaches reaches
    · exact (key_eq_of_reaches reaches).symm

end AgentResult

namespace Runner

variable {r : Runner} {a b : AgentResult} {i : Nat}

theorem IsKeyed.getElem?_results (keyed : r.IsKeyed) (kept : r.resultList[i]? = some a) :
    r.results[i]? = some (a.key, a) := by
  rw [resultList, List.getElem?_map, Option.map_eq_some_iff] at kept
  obtain ⟨⟨key, result⟩, isEntry, rfl⟩ := kept
  rw [isEntry, ← keyed.key_eq _ (List.mem_of_getElem? isEntry)]

theorem IsKeyed.eq_of_key_eq (keyed : r.IsKeyed) (aKept : a ∈ r.resultList)
    (bKept : b ∈ r.resultList) (same : a.key = b.key) : a = b := by
  obtain ⟨i, isA⟩ := List.mem_iff_getElem?.1 aKept
  obtain ⟨j, isB⟩ := List.mem_iff_getElem?.1 bKept
  have sameEntry := List.inj_on_of_nodup_map keyed.distinct
    (List.mem_of_getElem? (keyed.getElem?_results isA))
    (List.mem_of_getElem? (keyed.getElem?_results isB)) same
  exact (Prod.mk.inj sameEntry).2

theorem IsKeyed.getElem?_resultList_store (keyed : r.IsKeyed) (kept : r.resultList[i]? = some a)
    (b : AgentResult) :
    (r.store b).resultList[i]? = some (if a.key = b.key then b else a) := by
  have isEntry := keyed.getElem?_results kept
  rw [resultList, List.getElem?_map]
  by_cases known : b.key ∈ Assoc.keys r.results
  · rw [store_of_mem keyed known, List.getElem?_map, isEntry, Option.map_some, Option.map_some]
    split <;> rfl
  · have differ : a.key ≠ b.key := by
      intro same
      exact known (same ▸ List.mem_map.2 ⟨(a.key, a), List.mem_of_getElem? isEntry, rfl⟩)
    have within : i < r.results.length := (List.getElem?_eq_some_iff.1 isEntry).1
    rw [store_of_not_mem known, List.getElem?_append_left within, isEntry, if_neg differ]
    rfl

/-- Whatever was done before, an agent that answers takes the place of another agent's result just
    if the keys of the two results meet, and else that result stays where it is. -/
theorem execute_takesPlace_iff (agents : List Agent) (history : List Action)
    (respond : Responder) (id : String) (row : Row) (rowId : Option Cell) {a b : AgentResult}
    {i : Nat} (kept : ((ofAgents agents).after history).resultList[i]? = some a)
    (other : id ≠ a.agentId)
    (answers : (((ofAgents agents).after history).execute respond id row rowId).1 = .ok b) :
    let results := (((ofAgents agents).after history).execute respond id row rowId).2.resultList
    b.agentId = id ∧ b.rowId = rowId.getD (ownId row) ∧
      ((a.Meets b ∧ results[i]? = some b ∧ a ∉ results) ∨
        (¬ a.Meets b ∧ results[i]? = some a)) := by
  have keyed := isKeyed_after agents history
  rcases execute_cases respond ((ofAgents agents).after history) id row rowId with
    ⟨why, failed⟩ | ⟨text, answered⟩
  · rw [failed] at answers
    cases answers
  rw [answered] at answers ⊢
  cases answers
  have inPlace := keyed.getElem?_resultList_store kept ⟨id, rowId.getD (ownId row), text⟩
  have sameKey_iff := AgentResult.key_eq_iff (b := ⟨id, rowId.getD (ownId row), text⟩) other.symm
  refine ⟨rfl, rfl, ?_⟩
  by_cases meets : a.Meets ⟨id, rowId.getD (ownId row), text⟩
  · have sameKey := sameKey_iff.2 meets
    rw [if_pos sameKey] at inPlace
    refine .inl ⟨meets, inPlace, fun still => other ?_⟩
    -- No key stands twice, so the two results would be one.
    have same := (keyed.store _).eq_of_key_eq still (List.mem_of_getElem? inPlace) sameKey
    rw [same]
  · rw [if_neg (mt sameKey_iff.1 meets)] at inPlace
    exact .inr ⟨meets, inPlace⟩

/-- The two results are both kept where what stands behind the dashes differs. -/
theorem execute_takesPlace_iff_predict :
    let agents : List Agent := [⟨"predict", "Predict", none, "", .single⟩,
      ⟨"predict-delivery", "Predict delivery", none, "", .single⟩]
    let row : Row := ⟨[("id", .text "delivery-7")], by decide⟩
    let text := "Based on the data, prediction: Likely to complete within 5-7 business days."
    let kept : AgentResult := ⟨"predict", .text "delivery-7", text⟩
    let added : AgentResult := ⟨"predict-delivery", .text "8", text⟩
    let r := (ofAgents agents).after [.execute .offline "predict" row none]
    let answer := r.execute .offline "predict-delivery" row (some (.text "8"))
    r.resultList[0]? = some kept ∧ "predict-delivery" ≠ kept.agentId ∧ answer.1 = .ok added ∧
      answer.2.resultList = [kept, added] ∧
      ((kept.Meets added ∧ answer.2.resultList[0]? = some added ∧ kept ∉ answer.2.resultList) ∨
        (¬ kept.Meets added ∧ answer.2.resultList[0]? = some kept)) := by
  intro agents row text kept added r answer
  have isAnswer := execute_takesPlace_iff agents [.execute .offline "predict" row none] .offline
    "predict-delivery" row (some (.text "8")) (a := kept) (b := added) (i := 0) rfl (by decide) rfl
  exact ⟨rfl, by decide, rfl, rfl, isAnswer.2.2⟩

/-- A result is gone where the key of another agent's result happens to be the same. -/
theorem execute_takesPlace_of_predict :
    let agents : List Agent := [⟨"predict", "Predict", none, "", .single⟩,
      ⟨"predict-delivery", "Predict delivery", none, "", .single⟩]
    let first : Row := ⟨[("id", .text "delivery-7")], by decide⟩
    let second : Row := ⟨[("id", .text "7")], by decide⟩
    let text := "Based on the data, prediction: Likely to complete within 5-7 business days."
    let kept : AgentResult := ⟨"predict", .text "delivery-7", text⟩
    let added : AgentResult := ⟨"predict-delivery", .text "7", text⟩
    let r := (ofAgents agents).after [.execute .offline "predict" first none]
    let answer := r.execute .offline "predict-delivery" second none
    kept ∈ r.resultList ∧ "predict-delivery" ≠ kept.agentId ∧ answer.1 = .ok added ∧
      kept ∉ answer.2.resultList ∧ answer.2.resultList = [added] := by
  refine ⟨List.mem_singleton.2 rfl, by decide, rfl, ?_, rfl⟩
  show _ ∉ [_]
  rw [List.mem_singleton, AgentResult.mk.injEq]
  exact fun same => absurd same.1 (by decide)

end Runner

end TableQuery
