import TableQuery.Agent
import TableQuery.Json.Decode

/-! # Agents as structured data

How agents are written as JSON and read back, and how results are written with the time
at which they were given.
-/

namespace TableQuery

namespace Agent

def toJson (a : Agent) : Json :=
  .obj ([("id", .str a.id), ("label", .str a.label)] ++
    Json.memberIf "icon" (a.icon.map .str) ++
    [("promptTemplate", .str a.template), ("scope", .str a.scope.name)])

def decode? (j : Json) : Option Agent :=
  match Json.fields? ["id", "label", "icon", "promptTemplate", "scope"] j with
  | some [id, label, icon, template, scope] => do
    return ⟨← Json.required? Json.str? id, ← Json.required? Json.str? label,
      ← Json.nullable? Json.str? icon, ← Json.required? Json.str? template,
      ← Json.orDefault? (Json.choice? [("single", .single), ("multi", .multi)]) .single scope⟩
  | _ => none

end Agent

/-- The result as structured data with the time at which it was given. -/
def AgentResult.toJson (time : String) (r : AgentResult) : Json :=
  .obj [("agentId", .str r.agentId), ("rowId", r.rowId.toJson), ("result", .str r.text),
    ("timestamp", .str time)]

end TableQuery
