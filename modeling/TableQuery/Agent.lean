import TableQuery.Condition
import TableQuery.Error
import TableQuery.Template

/-! # Agents

An agent is a template for questions about rows. A runner keeps agents and the results
they gave, one for each agent and row, in the order in which the pairs first came up.
What answers the questions is a function, so that any service can stand behind it.
-/

namespace TableQuery

/-- Does an agent work on one row at a time, or on many? -/
inductive AgentScope where
  | single
  | multi
deriving DecidableEq, Repr, Inhabited

def AgentScope.name : AgentScope → String
  | .single => "single"
  | .multi => "multi"

/-- A template for questions about rows. -/
structure Agent where
  id : String
  label : String
  icon : Option String
  template : String
  scope : AgentScope
deriving DecidableEq, Repr, Inhabited

/-- The question of an agent about a row. -/
def Agent.prompt (a : Agent) (row : Row) : String := Template.fill row a.template

/-- What answers the question of an agent. -/
abbrev Responder := Agent → String → Except AgentError String

structure AgentResult where
  agentId : String
  rowId : Cell
  text : String
deriving BEq, Inhabited

namespace AgentResult

def key (r : AgentResult) : String := r.agentId ++ "-" ++ r.rowId.display

end AgentResult

namespace Responder

def mentions (word : String) (s : String) : Bool := Text.occursIn word.toList s.toList

def beginning (n : Nat) (s : String) : String := String.ofList (s.toList.take n)

/-- Answers that need no service, chosen by the words in the agent's id. -/
def canned (id prompt : String) : String :=
  if mentions "explain" id then
    "This record shows: " ++ beginning 100 prompt ++ "... This is a standard entry in the dataset."
  else if mentions "predict" id then
    "Based on the data, prediction: Likely to complete within 5-7 business days."
  else if mentions "classify" id || mentions "categorize" id then
    "Classification: Standard category based on the provided attributes."
  else if mentions "email" id || mentions "draft" id then
    "Dear Customer,\n\nThank you for your inquiry. We have reviewed your request and will process it shortly.\n\nBest regards,\nSupport Team"
  else if mentions "summarize" id then
    "Summary: " ++ beginning 150 prompt ++ "..."
  else
    "AI Response for: " ++ beginning 100 prompt ++ "..."

def offline : Responder := fun agent prompt => .ok (canned agent.id prompt)

end Responder

structure Runner where
  agents : List Agent
  results : List (String × AgentResult)
deriving Inhabited

namespace Runner

def ofAgents (agents : List Agent) : Runner := ⟨agents, []⟩

def agent? (r : Runner) (id : String) : Option Agent := r.agents.find? (·.id = id)

/-- Add an agent in the place of any with the same id. -/
def register (r : Runner) (a : Agent) : Runner :=
  { r with agents := r.agents.filter (·.id ≠ a.id) ++ [a] }

def unregister (r : Runner) (id : String) : Runner :=
  { r with agents := r.agents.filter (·.id ≠ id) }

def hasAgent (r : Runner) (id : String) : Bool := r.agents.any (·.id = id)

/-- The id that a row gives itself, empty if it gives none. -/
def ownId (row : Row) : Cell := row.cell "id"

def store (r : Runner) (result : AgentResult) : Runner :=
  { r with results := Assoc.insert result.key result r.results }

/-- Ask an agent about a row, under the given id of the row or its own. -/
def execute (respond : Responder) (r : Runner) (id : String) (row : Row) (rowId : Option Cell) :
    Except AgentError AgentResult × Runner :=
  match r.agent? id with
  | none => (.error (.unknownAgent id), r)
  | some agent =>
    match respond agent (agent.prompt row) with
    | .error why => (.error why, r)
    | .ok text =>
      let result : AgentResult := ⟨agent.id, rowId.getD (ownId row), text⟩
      (.ok result, r.store result)

/-- The id of a row of a batch: its own, or else its position. -/
def batchId (index : Nat) (row : Row) : Cell :=
  match ownId row with
  | .null => .number (floatOfNat index)
  | id => id

/-- Ask an agent about rows one after another, up to the first failure. -/
def executeFrom (respond : Responder) (id : String) :
    Nat → List Row → Runner → Except AgentError (List AgentResult) × Runner
  | _, [], r => (.ok [], r)
  | index, row :: rest, r =>
    match execute respond r id row (some (batchId index row)) with
    | (.error why, r) => (.error why, r)
    | (.ok result, r) =>
      match executeFrom respond id (index + 1) rest r with
      | (.error why, r) => (.error why, r)
      | (.ok results, r) => (.ok (result :: results), r)

def executeBatch (respond : Responder) (r : Runner) (id : String) (rows : List Row) :
    Except AgentError (List AgentResult) × Runner :=
  match r.agent? id with
  | none => (.error (.unknownAgent id), r)
  | some agent =>
    match agent.scope with
    | .single => (.error (.singleRow id), r)
    | .multi => executeFrom respond id 0 rows r

def resultList (r : Runner) : List AgentResult := r.results.map Prod.snd

def rowResults (r : Runner) (row : Row) : List AgentResult :=
  r.resultList.filter fun result => result.rowId == ownId row

def clearResults (r : Runner) : Runner := { r with results := [] }

end Runner

end TableQuery
