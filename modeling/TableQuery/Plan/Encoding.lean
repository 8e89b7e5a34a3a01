import TableQuery.Json.Decode
import TableQuery.Plan
import TableQuery.Row

/-! # Plans as structured data

How cells, rows, conditions, filters, sorts and plans are written as JSON and read back.
Parts of a plan that it does not have are left out.
-/

namespace TableQuery

/-- The cell of a value that is no array and no object. -/
def Cell.decode? : Json → Option Cell
  | .arr _ => none
  | .obj _ => none
  | v => some (Cell.ofJson v)

def Row.decode? : Json → Option Row
  | .obj members =>
    (members.mapM fun (m : String × Json) => (Cell.decode? m.2).map fun c => (m.1, c)).map
      Row.ofList
  | _ => none

namespace Operator

def byName : List (String × Operator) :=
  [.equals, .contains, .gt, .lt, .gte, .lte, .oneOf, .between, .regex].map fun o => (o.name, o)

end Operator

namespace Operand

def toJson : Operand → Json
  | .scalar v => v.toJson
  | .list vs => .arr (vs.map Cell.toJson)

def decode? (j : Json) : Option Operand :=
  match Cell.decode? j with
  | some v => some (.scalar v)
  | none => (Json.list? Cell.decode? j).map .list

end Operand

namespace Condition

def toJson (c : Condition) : Json :=
  .obj [("column", .str c.column), ("operator", .str c.operator.name), ("value", c.value.toJson)]

def decode? (j : Json) : Option Condition :=
  match Json.fields? ["column", "operator", "value"] j with
  | some [column, operator, value] => do
    return ⟨← Json.required? Json.str? column,
      ← Json.required? (Json.choice? Operator.byName) operator,
      ← Json.required? Operand.decode? value⟩
  | _ => none

end Condition

namespace Filter

def toJson (f : Filter) : Json :=
  .obj [("conditions", .arr (f.conditions.map Condition.toJson)),
    ("operator", .str f.junction.name)]

def decode? (j : Json) : Option Filter :=
  match Json.fields? ["conditions", "operator"] j with
  | some [conditions, operator] => do
    return ⟨← Json.required? (Json.list? Condition.decode?) conditions,
      ← Json.required? (Json.choice? [("AND", .all), ("OR", .any)]) operator⟩
  | _ => none

end Filter

namespace SortKey

def toJson (s : SortKey) : Json := .obj [("column", .str s.column), ("order", .str s.order.name)]

def decode? (j : Json) : Option SortKey :=
  match Json.fields? ["column", "order"] j with
  | some [column, order] => do
    return ⟨← Json.required? Json.str? column,
      ← Json.required? (Json.choice? [("asc", .asc), ("desc", .desc)]) order⟩
  | _ => none

end SortKey

namespace Plan

def toJson (p : Plan) : Json :=
  .obj ([("query", .str p.query)] ++ Json.memberIf "filter" (p.filter.map Filter.toJson) ++
    Json.memberIf "sort" (p.sort.map SortKey.toJson) ++
    Json.memberIf "limit" (p.limit.map fun n => .int n) ++
    [("explanation", .str p.explanation)])

def decode? (j : Json) : Option Plan :=
  match Json.fields? ["query", "filter", "sort", "limit", "explanation"] j with
  | some [query, filter, sort, limit, explanation] => do
    return ⟨← Json.required? Json.str? query, ← Json.nullable? Filter.decode? filter,
      ← Json.nullable? SortKey.decode? sort, ← Json.nullable? Json.word? limit,
      ← Json.required? Json.str? explanation⟩
  | _ => none

end Plan

end TableQuery
