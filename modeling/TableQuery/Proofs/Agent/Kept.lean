import TableQuery.Proofs.Agent.Batch
import TableQuery.Proofs.Agent.Order
import TableQuery.Proofs.Numeral.Natural

/-! # Answers of a batch that are kept

The rows of a batch are known by the ids that they give themselves, and those that give themselves
none by their positions.  All answers are kept just if no other row is known by the text of such a
position.  Where one is, two answers have the same key, and only the later of them is kept.
-/

namespace TableQuery

namespace AgentResult

theorem standing_of_nodup {answers : List AgentResult} (distinct : (answers.map key).Nodup) :
    standing answers = answers := by
  induction answers with
  | nil => rfl
  | cons first later inductionHypothesis =>
    rw [List.map_cons, List.nodup_cons] at distinct
    rw [standing, if_neg distinct.1, inductionHypothesis distinct.2]

end AgentResult

namespace Runner

variable {r : Runner} {respond : Responder} {id : String} {rows : List Row}
  {answers : List AgentResult} {row : Row} {index : Nat}

/-! ## What the rows of a batch are known by -/

def batchTexts (rows : List Row) : List String :=
  rows.zipIdx.map fun numbered => (batchId numbered.2 numbered.1).display

/-- Do the ids that rows give themselves have different texts? -/
def DistinctIds (rows : List Row) : Prop :=
  rows.Pairwise fun row row' => ¬ (ownId row).isNull → ¬ (ownId row').isNull →
    (ownId row).display ≠ (ownId row').display

/-- Is each row that gives itself no id the only one that is known by the text of its position? -/
def PositionsFree (rows : List Row) : Prop :=
  ∀ i j row row', rows[i]? = some row → rows[j]? = some row' → (ownId row).isNull →
    (batchId j row').display = Numeral.text (floatOfNat i) → i = j

/-- Does no row give itself a number as its id at whose position a row without an id stands? -/
def PositionsUnused (rows : List Row) : Prop :=
  ∀ (i : Nat) (row row' : Row), rows[i]? = some row → row' ∈ rows → (ownId row).isNull →
    ¬ (ownId row').isNull → (ownId row').display ≠ toString i

theorem batchId_of_null (noId : (ownId row).isNull) :
    batchId index row = .number (floatOfNat index) := by
  rw [batchId]
  cases isOwn : ownId row with
  | null => rfl
  | bool _ | number _ | text _ =>
    rw [isOwn] at noId
    cases noId

theorem batchId_of_not_null (hasId : ¬ (ownId row).isNull) : batchId index row = ownId row := by
  rw [batchId]
  cases isOwn : ownId row with
  | null =>
    rw [isOwn] at hasId
    exact absurd rfl hasId
  | bool _ | number _ | text _ => rfl

theorem length_batchTexts : (batchTexts rows).length = rows.length := by
  simp [batchTexts]

theorem getElem?_batchTexts (index : Nat) :
    (batchTexts rows)[index]? = rows[index]?.map fun row => (batchId index row).display := by
  rw [batchTexts, List.getElem?_map, List.getElem?_zipIdx, Option.map_map, Nat.zero_add]
  rfl

/-- Rows whose ids differ have the same text only where one of them is known by its position. -/
theorem nodup_batchTexts_iff (distinct : DistinctIds rows) :
    (batchTexts rows).Nodup ↔ PositionsFree rows := by
  constructor
  · intro nodup i j row row' isRow isRow' noId sameText
    have within : i < (batchTexts rows).length := by
      rw [length_batchTexts]
      exact (List.getElem?_eq_some_iff.1 isRow).1
    apply (List.getElem?_inj within nodup).1
    rw [getElem?_batchTexts, getElem?_batchTexts, isRow, isRow', Option.map_some, Option.map_some,
      sameText, batchId_of_null noId, Cell.display]
  · intro free
    rw [List.nodup_iff_getElem?_ne_getElem?]
    intro i j before within same
    rw [length_batchTexts] at within
    have isRow := List.getElem?_eq_getElem (before.trans within)
    have isRow' := List.getElem?_eq_getElem within
    rw [getElem?_batchTexts, getElem?_batchTexts, isRow, isRow', Option.map_some, Option.map_some,
      Option.some_inj] at same
    by_cases noId : (ownId rows[i]).isNull
    · rw [batchId_of_null noId] at same
      exact before.ne (free i j _ _ isRow isRow' noId same.symm)
    · by_cases noId' : (ownId rows[j]).isNull
      · rw [batchId_of_null noId'] at same
        exact before.ne' (free j i _ _ isRow' isRow noId' same)
      · rw [batchId_of_not_null noId, batchId_of_not_null noId'] at same
        exact List.pairwise_iff_getElem.1 distinct i j _ _ before noId noId' same

/-- As far as doubles tell positions apart, only an id can have the text of another row's
    position. -/
theorem positionsFree_iff_positionsUnused (few : rows.length ≤ 2 ^ 53) :
    PositionsFree rows ↔ PositionsUnused rows := by
  have isText {i : Nat} {row : Row} (isRow : rows[i]? = some row) :
      Numeral.text (floatOfNat i) = toString i :=
    Numeral.text_floatOfNat ((List.getElem?_eq_some_iff.1 isRow).1.trans_le few)
  constructor
  · intro free i row row' isRow isMember noId hasId sameText
    obtain ⟨j, isRow'⟩ := List.mem_iff_getElem?.1 isMember
    have samePlace : i = j := by
      apply free i j row row' isRow isRow' noId
      rw [batchId_of_not_null hasId, sameText, isText isRow]
    rw [← samePlace, isRow] at isRow'
    cases isRow'
    exact hasId noId
  · intro unused i j row row' isRow isRow' noId sameText
    rw [isText isRow] at sameText
    by_cases noId' : (ownId row').isNull
    · rw [batchId_of_null noId', Cell.display, isText isRow'] at sameText
      exact (Nat.repr_injective sameText).symm
    · rw [batchId_of_not_null noId'] at sameText
      exact absurd sameText (unused i row row' isRow (List.mem_of_getElem? isRow') noId noId')

/-! ## What is kept -/

theorem IsKeyed.subperm_resultList_storeAll_iff (keyed : r.IsKeyed) :
    answers.Subperm (r.storeAll answers).resultList ↔ (answers.map AgentResult.key).Nodup := by
  have keyed' := keyed.storeAll answers
  constructor
  · intro kept
    obtain ⟨listed, isPerm, isSublist⟩ := kept
    have distinct : ((r.storeAll answers).resultList.map AgentResult.key).Nodup := by
      rw [keyed'.map_key_resultList]
      exact keyed'.distinct
    exact (isPerm.map AgentResult.key).nodup_iff.1 (distinct.sublist (isSublist.map _))
  · intro distinct
    apply List.subperm_of_subset (distinct.of_map AgentResult.key)
    intro a isAnswer
    rw [← AgentResult.standing_of_nodup distinct, AgentResult.mem_standing_iff] at isAnswer
    rw [keyed'.mem_resultList_iff, get?_storeAll, isAnswer, Option.some_or]

theorem key_of_rowAnswer {numbered : Row × Nat} {answer : AgentResult}
    (isAnswer : r.rowAnswer respond id numbered = .ok answer) :
    answer.key = id ++ "-" ++ (batchId numbered.2 numbered.1).display := by
  rw [rowAnswer] at isAnswer
  cases execute_cases respond r id numbered.1 (some (batchId numbered.2 numbered.1)) with
  | inl failed =>
    obtain ⟨why, failed⟩ := failed
    rw [failed] at isAnswer
    cases isAnswer
  | inr answered =>
    obtain ⟨text, answered⟩ := answered
    rw [answered] at isAnswer
    cases isAnswer
    rfl

theorem map_key_of_rowAnswers (all : r.rowAnswers respond id 0 rows = answers.map .ok) :
    answers.map AgentResult.key = (batchTexts rows).map (id ++ "-" ++ ·) := by
  have isLength := congrArg List.length all
  rw [rowAnswers, List.length_map, List.length_map] at isLength
  rw [batchTexts, List.map_map]
  apply List.ext_getElem
  · simp [isLength]
  · intro i within within'
    rw [List.length_map] at within within'
    have isAnswer := congrArg (·[i]?) all
    simp only [rowAnswers, List.getElem?_map, List.getElem?_eq_getElem within,
      List.getElem?_eq_getElem within', Option.map_some, Option.some_inj] at isAnswer
    rw [List.getElem_map, List.getElem_map, key_of_rowAnswer isAnswer]
    rfl

/-- Whatever was done before, a batch that succeeds on rows whose ids differ answers about each of
    them, and all its answers are kept just if no row is known by the text of the position of
    another one that gives itself no id.  As far as doubles tell positions apart, that is a row
    with an id of its own. -/
theorem executeBatch_keepsAnswers_iff (agents : List Agent) (history : List Action)
    (respond : Responder) (id : String) {rows : List Row} {answers : List AgentResult}
    (distinct : DistinctIds rows)
    (answered : (((ofAgents agents).after history).executeBatch respond id rows).1 = .ok answers) :
    let r := (((ofAgents agents).after history).executeBatch respond id rows).2
    answers.length = rows.length ∧ (answers.Subperm r.resultList ↔ PositionsFree rows) ∧
      (rows.length ≤ 2 ^ 53 → (answers.Subperm r.resultList ↔ PositionsUnused rows)) := by
  obtain ⟨all, isStored⟩ := executeBatch_of_ok answered
  have isKey := map_key_of_rowAnswers all
  have kept_iff : answers.Subperm (((ofAgents agents).after history).storeAll answers).resultList ↔
      PositionsFree rows := by
    rw [(isKeyed_after agents history).subperm_resultList_storeAll_iff, isKey,
      List.nodup_map_iff fun _ _ same => String.append_right_inj _ |>.1 same,
      nodup_batchTexts_iff distinct]
  rw [isStored]
  refine ⟨?_, kept_iff, fun few => kept_iff.trans (positionsFree_iff_positionsUnused few)⟩
  have isLength := congrArg List.length isKey
  rwa [List.length_map, List.length_map, length_batchTexts] at isLength

/-- Both answers are kept where the one row gives itself an id that is no position of the other. -/
theorem executeBatch_keepsAnswers_iff_of_id :
    let agents : List Agent := [⟨"explain", "Explain", none, "{{customer}}", .multi⟩]
    let rows : List Row := [⟨[("customer", .text "A")], by simp⟩,
      ⟨[("customer", .text "B"), ("id", .text "1")], by simp⟩]
    let explained (name : String) := "This record shows: " ++ name ++
      "... This is a standard entry in the dataset."
    let answers : List AgentResult := [⟨"explain", .number (floatOfNat 0), explained "A"⟩,
      ⟨"explain", .text "1", explained "B"⟩]
    let history : List Action := [.executeBatch .offline "explain" rows]
    let outcome := ((ofAgents agents).after history).executeBatch .offline "explain" rows
    DistinctIds rows ∧ outcome.1 = .ok answers ∧ answers.length = rows.length ∧
      outcome.2.resultList = answers ∧ PositionsFree rows ∧ PositionsUnused rows := by
  intro agents rows explained answers history outcome
  have distinct : DistinctIds rows := List.pairwise_pair.2 fun hasId => absurd rfl hasId
  have answered : outcome.1 = .ok answers := rfl
  obtain ⟨isLength, kept_iff, kept_iff'⟩ :=
    executeBatch_keepsAnswers_iff agents history .offline "explain" distinct answered
  have kept : answers.Subperm outcome.2.resultList := .refl answers
  exact ⟨distinct, answered, isLength, rfl, kept_iff.1 kept, (kept_iff' (by decide)).1 kept⟩

/-- An answer is gone where another row gives itself the number of its position as its id. -/
theorem executeBatch_losesAnswer_of_id :
    let agents : List Agent := [⟨"explain", "Explain", none, "{{customer}}", .multi⟩]
    let rows : List Row := [⟨[("customer", .text "A")], by simp⟩,
      ⟨[("customer", .text "B"), ("id", .text "0")], by simp⟩]
    let explained (name : String) := "This record shows: " ++ name ++
      "... This is a standard entry in the dataset."
    let lost : AgentResult := ⟨"explain", .number (floatOfNat 0), explained "A"⟩
    let kept : AgentResult := ⟨"explain", .text "0", explained "B"⟩
    let outcome := (ofAgents agents).executeBatch .offline "explain" rows
    DistinctIds rows ∧ outcome.1 = .ok [lost, kept] ∧ outcome.2.resultList = [kept] ∧
      lost ∉ outcome.2.resultList := by
  intro agents rows explained lost kept outcome
  have isOnly : outcome.2.resultList = [kept] := rfl
  refine ⟨List.pairwise_pair.2 fun hasId => absurd rfl hasId, rfl, isOnly, ?_⟩
  rw [isOnly, List.mem_singleton]
  intro same
  cases congrArg AgentResult.rowId same

end Runner

end TableQuery
