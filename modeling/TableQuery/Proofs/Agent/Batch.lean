import TableQuery.Proofs.Agent.History

/-! # Batches

A batch is the sequence of its single calls up to the first that fails.  What it gives is what
they give, and what it leaves behind is what they leave behind.
-/

namespace TableQuery.Runner

variable {respond : Responder} {r : Runner} {id : String} {rows : List Row}
  {answers : List AgentResult}

/-- The single call about a row that stands at this place of a batch: under the id of the row, or
    else under its position. -/
def singleCall (respond : Responder) (id : String) (numbered : Row × Nat) : Action :=
  .execute respond id numbered.1 (some (batchId numbered.2 numbered.1))

def singleCalls (respond : Responder) (id : String) (rows : List Row) : List Action :=
  rows.zipIdx.map (singleCall respond id)

/-- What the single call about the row at a position gives when those in front of it were made. -/
def singleAnswer? (respond : Responder) (r : Runner) (id : String) (rows : List Row)
    (index : Nat) : Option (Except AgentError AgentResult) :=
  rows[index]?.map fun row =>
    (r.after ((singleCalls respond id rows).take index)).rowAnswer respond id (row, index)

/-- Is this what a batch gives and leaves behind if its rows are asked about one by one? -/
inductive RunsRowByRow (respond : Responder) (r : Runner) (id : String) (rows : List Row) :
    Except AgentError (List AgentResult) × Runner → Prop where
  | refused {why : AgentError} (isRefused : r.refusal? id = some why) :
      RunsRowByRow respond r id rows (.error why, r)
  | finishes {answers : List AgentResult} (accepted : r.refusal? id = none)
      (answered : ∀ index, singleAnswer? respond r id rows index = answers[index]?.map .ok) :
      RunsRowByRow respond r id rows (.ok answers, r.after (singleCalls respond id rows))
  | fails {index : Nat} {why : AgentError} (accepted : r.refusal? id = none)
      (answered : ∀ earlier < index, ∃ answer,
        singleAnswer? respond r id rows earlier = some (.ok answer))
      (failed : singleAnswer? respond r id rows index = some (.error why)) :
      RunsRowByRow respond r id rows
        (.error why, r.after ((singleCalls respond id rows).take index))

/-! ## Single calls -/

/-- There are answers only, or the answers in front of a first failure. -/
theorem gathered_cases (given : List (Except AgentError AgentResult)) :
    (given = (untilFailure given).map .ok ∧
      (given.mapM fun answer => answer) = .ok (untilFailure given)) ∨
    ∃ why rest, given = (untilFailure given).map .ok ++ .error why :: rest ∧
      (given.mapM fun answer => answer) = .error why := by
  induction given with
  | nil => exact .inl ⟨rfl, rfl⟩
  | cons first rest inductionHypothesis =>
    cases first with
    | error why => exact .inr ⟨why, rest, rfl, rfl⟩
    | ok answer =>
      cases inductionHypothesis with
      | inl all =>
        left
        refine ⟨congrArg (Except.ok answer :: ·) all.1, ?_⟩
        rw [List.mapM_cons, all.2]
        rfl
      | inr failed =>
        obtain ⟨why, behind, isSplit, isError⟩ := failed
        right
        refine ⟨why, behind, congrArg (Except.ok answer :: ·) isSplit, ?_⟩
        rw [List.mapM_cons, isError]
        rfl

theorem executeBatch_of_ok (answered : (r.executeBatch respond id rows).1 = .ok answers) :
    r.rowAnswers respond id 0 rows = answers.map .ok ∧
      (r.executeBatch respond id rows).2 = r.storeAll answers := by
  rw [executeBatch_eq] at answered ⊢
  cases refused : r.refusal? id with
  | some why =>
    rw [refused] at answered
    cases answered
  | none =>
    rw [refused] at answered
    simp only [executeFrom_eq] at answered ⊢
    cases gathered_cases (r.rowAnswers respond id 0 rows) with
    | inl all =>
      rw [all.2] at answered
      cases answered
      exact ⟨all.1, rfl⟩
    | inr failed =>
      obtain ⟨why, behind, isSplit, isError⟩ := failed
      rw [isError] at answered
      cases answered

theorem RunsRowByRow.unique {outcome other : Except AgentError (List AgentResult) × Runner}
    (runs : RunsRowByRow respond r id rows outcome) (runs' : RunsRowByRow respond r id rows other) :
    outcome = other := by
  cases runs with
  | refused isRefused =>
    cases runs' with
    | refused isRefused' =>
      rw [isRefused] at isRefused'
      cases isRefused'
      rfl
    | finishes accepted _ | fails accepted _ _ =>
      rw [isRefused] at accepted
      cases accepted
  | finishes accepted answered =>
    cases runs' with
    | refused isRefused =>
      rw [accepted] at isRefused
      cases isRefused
    | finishes _ answered' =>
      have sameAnswers := List.ext_getElem? fun index =>
        Option.map_injective (fun _ _ same => Except.ok.inj same)
          ((answered index).symm.trans (answered' index))
      rw [sameAnswers]
    | fails _ _ failed =>
      rw [answered, Option.map_eq_some_iff] at failed
      obtain ⟨_, _, isError⟩ := failed
      cases isError
  | @fails index why accepted answered failed =>
    cases runs' with
    | refused isRefused =>
      rw [accepted] at isRefused
      cases isRefused
    | finishes _ answered' =>
      rw [answered', Option.map_eq_some_iff] at failed
      obtain ⟨_, _, isError⟩ := failed
      cases isError
    | @fails index' why' _ answered' failed' =>
      have notEarlier : ¬ index < index' := by
        intro isEarlier
        obtain ⟨answer, isAnswer⟩ := answered' index isEarlier
        rw [failed] at isAnswer
        cases isAnswer
      have notLater : ¬ index' < index := by
        intro isEarlier
        obtain ⟨answer, isAnswer⟩ := answered index' isEarlier
        rw [failed'] at isAnswer
        cases isAnswer
      obtain rfl : index = index' := by omega
      rw [failed] at failed'
      cases failed'
      rfl

end TableQuery.Runner
