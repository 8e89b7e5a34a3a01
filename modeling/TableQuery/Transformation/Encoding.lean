import TableQuery.Plan.Encoding
import TableQuery.Transformation

/-! # Transformations as structured data

How transformations and changes are written as JSON and read back.
-/

namespace TableQuery

namespace Transformation

def toJson (t : Transformation) : Json :=
  .obj ([("id", .str t.id), ("label", .str t.label), ("scope", .str t.scope.name)] ++
    Json.memberIf "targetColumn" (t.targetColumn.map .str) ++
    [("promptTemplate", .str t.template), ("preview", .bool t.preview)])

def scopes : List (String × TransformScope) :=
  [.column, .row, .selection, .table].map fun s => (s.name, s)

def decode? (j : Json) : Option Transformation :=
  match Json.fields? ["id", "label", "scope", "targetColumn", "promptTemplate", "preview"] j with
  | some [id, label, scope, target, template, preview] => do
    return ⟨← Json.required? Json.str? id, ← Json.required? Json.str? label,
      ← Json.orDefault? (Json.choice? scopes) .column scope,
      ← Json.nullable? Json.str? target, ← Json.required? Json.str? template,
      ← Json.orDefault? Json.bool? false preview⟩
  | _ => none

end Transformation

namespace Change

def toJson (c : Change) : Json :=
  .obj [("rowIndex", .int c.rowIndex), ("column", .str c.column),
    ("oldValue", c.oldValue.toJson), ("newValue", c.newValue.toJson)]

def decode? (j : Json) : Option Change :=
  match Json.fields? ["rowIndex", "column", "oldValue", "newValue"] j with
  | some [rowIndex, column, oldValue, newValue] => do
    return ⟨← Json.required? Json.word? rowIndex, ← Json.required? Json.str? column,
      ← Json.required? Cell.decode? oldValue, ← Json.required? Cell.decode? newValue⟩
  | _ => none

end Change

end TableQuery
