import TableQuery.Agent
import TableQuery.Proofs.Assoc.Keys

/-! # What a runner keeps

Whatever is done with a runner, it stores results one after another or forgets them all.  So each
result that is kept stands under its own key, and no key stands twice: a result that is stored
takes the place of the one with its key, or else it comes behind all others.
-/

namespace TableQuery

namespace Runner

/-- What can be done with a runner.  Each call has its own responder, for what answers may answer
    otherwise the next time. -/
inductive Action where
  | register (agent : Agent)
  | unregister (id : String)
  | execute (respond : Responder) (id : String) (row : Row) (rowId : Option Cell)
  | executeBatch (respond : Responder) (id : String) (rows : List Row)
  | clearResults

def Action.apply (r : Runner) : Action → Runner
  | .register agent => r.register agent
  | .unregister id => r.unregister id
  | .execute respond id row rowId => (Runner.execute respond r id row rowId).2
  | .executeBatch respond id rows => (Runner.executeBatch respond r id rows).2
  | .clearResults => r.clearResults

/-- The runner after a history, whose first action was the first one. -/
def after (r : Runner) (history : List Action) : Runner := history.foldl Action.apply r

/-- Does each result stand under its own key, and each key once? -/
structure IsKeyed (r : Runner) : Prop where
  key_eq : ∀ entry ∈ r.results, entry.1 = entry.2.key
  distinct : (Assoc.keys r.results).Nodup

variable {r : Runner} {respond : Responder} {id : String}

/-! ## Results that are stored -/

theorem agent?_id {agent : Agent} (found : r.agent? id = some agent) : agent.id = id := by
  simpa using List.find?_some found

theorem execute_cases (respond : Responder) (r : Runner) (id : String) (row : Row)
    (rowId : Option Cell) :
    (∃ why, r.execute respond id row rowId = (.error why, r)) ∨
      ∃ text, r.execute respond id row rowId =
        (.ok ⟨id, rowId.getD (ownId row), text⟩, r.store ⟨id, rowId.getD (ownId row), text⟩) := by
  rw [execute]
  cases found : r.agent? id with
  | none => exact .inl ⟨_, rfl⟩
  | some agent =>
    simp only
    cases respond agent (agent.prompt row) with
    | error why => exact .inl ⟨why, rfl⟩
    | ok text => exact .inr ⟨text, by rw [agent?_id found]⟩

def storeAll (r : Runner) (results : List AgentResult) : Runner := results.foldl store r

/-- What a single call about a row gives that stands at this place of a batch. -/
def rowAnswer (respond : Responder) (r : Runner) (id : String) (numbered : Row × Nat) :
    Except AgentError AgentResult :=
  (r.execute respond id numbered.1 (some (batchId numbered.2 numbered.1))).1

/-- What single calls about the rows of a batch give, of which the first stands at `start`. -/
def rowAnswers (respond : Responder) (r : Runner) (id : String) (start : Nat) (rows : List Row) :
    List (Except AgentError AgentResult) :=
  (rows.zipIdx start).map (r.rowAnswer respond id)

/-- Why an agent is asked about no batch: it is not known, or it works on single rows. -/
def refusal? (r : Runner) (id : String) : Option AgentError :=
  match r.agent? id with
  | none => some (.unknownAgent id)
  | some agent => if agent.scope = .multi then none else some (.singleRow id)

def untilFailure : List (Except AgentError AgentResult) → List AgentResult
  | .ok answer :: rest => answer :: untilFailure rest
  | _ => []

namespace Action

/-- The answers that an action gets, in the order in which it gets them. -/
def answers (r : Runner) : Action → List AgentResult
  | .execute respond id row rowId => (r.execute respond id row rowId).1.toOption.toList
  | .executeBatch respond id rows => match r.refusal? id with
    | some _ => []
    | none => untilFailure (r.rowAnswers respond id 0 rows)
  | _ => []

def forgets : Action → Bool
  | .clearResults => true
  | _ => false

end Action

theorem execute_fst_congr {other : Runner} (same : other.agents = r.agents) (row : Row)
    (rowId : Option Cell) :
    (other.execute respond id row rowId).1 = (r.execute respond id row rowId).1 := by
  simp only [execute, agent?, same]
  cases r.agents.find? (·.id = id) with
  | none => rfl
  | some agent =>
    simp only
    cases respond agent (agent.prompt row) <;> rfl

theorem execute_snd (row : Row) (rowId : Option Cell) : (r.execute respond id row rowId).2 =
    r.storeAll (r.execute respond id row rowId).1.toOption.toList := by
  cases execute_cases respond r id row rowId with
  | inl failed =>
    obtain ⟨why, failed⟩ := failed
    rw [failed]
    rfl
  | inr answered =>
    obtain ⟨text, answered⟩ := answered
    rw [answered]
    rfl

theorem rowAnswers_store (result : AgentResult) (start : Nat) (rows : List Row) :
    (r.store result).rowAnswers respond id start rows = r.rowAnswers respond id start rows := by
  have sameAgents : (r.store result).agents = r.agents := rfl
  exact List.map_congr_left fun _ _ => execute_fst_congr sameAgents _ _

/-- A batch gives the answers about all rows, or else the first failure, and stores the answers
    in front of it. -/
theorem executeFrom_eq (start : Nat) (rows : List Row) (r : Runner) :
    executeFrom respond id start rows r =
      ((r.rowAnswers respond id start rows).mapM fun answer => answer,
        r.storeAll (untilFailure (r.rowAnswers respond id start rows))) := by
  induction rows generalizing start r with
  | nil => rfl
  | cons row rest inductionHypothesis =>
    have isCons : r.rowAnswers respond id start (row :: rest) =
        r.rowAnswer respond id (row, start) :: r.rowAnswers respond id (start + 1) rest := rfl
    rw [executeFrom, isCons, rowAnswer]
    cases execute_cases respond r id row (some (batchId start row)) with
    | inl failed =>
      obtain ⟨why, failed⟩ := failed
      rw [failed]
      rfl
    | inr answered =>
      obtain ⟨text, answered⟩ := answered
      rw [answered]
      simp only [inductionHypothesis, rowAnswers_store]
      cases gathered : (r.rowAnswers respond id (start + 1) rest).mapM fun answer => answer <;>
        simp [gathered, List.mapM_cons, untilFailure, storeAll, bind, Except.bind, pure,
          Except.pure]

theorem executeBatch_eq (rows : List Row) : r.executeBatch respond id rows =
    match r.refusal? id with
    | some why => (.error why, r)
    | none => executeFrom respond id 0 rows r := by
  rw [executeBatch, refusal?]
  cases r.agent? id with
  | none => rfl
  | some agent => cases isScope : agent.scope <;> simp [isScope]

theorem executeBatch_snd (rows : List Row) : (r.executeBatch respond id rows).2 =
    r.storeAll ((Action.executeBatch respond id rows).answers r) := by
  rw [executeBatch_eq, Action.answers]
  cases r.refusal? id with
  | some why => rfl
  | none => simp only [executeFrom_eq]

theorem results_apply (r : Runner) (action : Action) : (action.apply r).results =
    if action.forgets then [] else (r.storeAll (action.answers r)).results := by
  cases action with
  | register agent => rfl
  | unregister id => rfl
  | execute respond id row rowId => exact congrArg Runner.results (execute_snd row rowId)
  | executeBatch respond id rows => exact congrArg Runner.results (executeBatch_snd rows)
  | clearResults => rfl

/-! ## Keys -/

theorem store_of_mem (keyed : r.IsKeyed) {result : AgentResult}
    (member : result.key ∈ Assoc.keys r.results) : (r.store result).results =
      r.results.map fun entry => if entry.1 = result.key then (result.key, result) else entry :=
  Assoc.insert_of_mem result keyed.distinct member

theorem store_of_not_mem {result : AgentResult} (fresh : result.key ∉ Assoc.keys r.results) :
    (r.store result).results = r.results ++ [(result.key, result)] :=
  Assoc.insert_of_not_mem result fresh

theorem IsKeyed.store (keyed : r.IsKeyed) (result : AgentResult) : (r.store result).IsKeyed := by
  constructor
  case distinct => exact Assoc.nodup_keys_insert _ _ keyed.distinct
  case key_eq =>
    intro entry member
    by_cases known : result.key ∈ Assoc.keys r.results
    · rw [store_of_mem keyed known] at member
      obtain ⟨before, isBefore, rfl⟩ := List.mem_map.1 member
      split
      · rfl
      · exact keyed.key_eq before isBefore
    · rw [store_of_not_mem known] at member
      rcases List.mem_append.1 member with isBefore | isNew
      · exact keyed.key_eq entry isBefore
      · rw [List.mem_singleton.1 isNew]

theorem IsKeyed.storeAll (keyed : r.IsKeyed) (results : List AgentResult) :
    (r.storeAll results).IsKeyed := by
  induction results generalizing r with
  | nil => exact keyed
  | cons first rest inductionHypothesis => exact inductionHypothesis (keyed.store first)

theorem IsKeyed.of_results_eq {other : Runner} (keyed : r.IsKeyed)
    (same : other.results = r.results) : other.IsKeyed :=
  ⟨same ▸ keyed.key_eq, same ▸ keyed.distinct⟩

theorem isKeyed_of_empty (noResults : r.results = []) : r.IsKeyed where
  key_eq := by simp [noResults]
  distinct := by simp [noResults]

theorem IsKeyed.apply (keyed : r.IsKeyed) (action : Action) : (action.apply r).IsKeyed := by
  have applied := results_apply r action
  cases isForgotten : action.forgets with
  | true =>
    rw [isForgotten, if_pos rfl] at applied
    exact isKeyed_of_empty applied
  | false =>
    rw [isForgotten, if_neg Bool.false_ne_true] at applied
    exact (keyed.storeAll _).of_results_eq applied

/-- Results stand under their own keys, each key once, whatever is done with the runner. -/
theorem IsKeyed.after (keyed : r.IsKeyed) (history : List Action) : (r.after history).IsKeyed := by
  induction history generalizing r with
  | nil => exact keyed
  | cons action later inductionHypothesis => exact inductionHypothesis (keyed.apply action)

theorem isKeyed_after (agents : List Agent) (history : List Action) :
    ((ofAgents agents).after history).IsKeyed :=
  IsKeyed.after (isKeyed_of_empty rfl) history

end Runner

end TableQuery
