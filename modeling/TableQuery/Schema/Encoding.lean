import TableQuery.Plan.Encoding
import TableQuery.Schema

/-! # Schemas as structured data

How declarations, columns and schemas are written as JSON and read back.
-/

namespace TableQuery

namespace ColumnType

def byName : List (String × ColumnType) :=
  [.string, .number, .date, .boolean].map fun t => (t.name, t)

end ColumnType

namespace ColumnDecl

def toJson (d : ColumnDecl) : Json :=
  .obj [("key", .str d.key), ("type", Json.orNull (d.type.map fun t => .str t.name)),
    ("label", Json.orNull (d.label.map .str))]

def decode? (j : Json) : Option ColumnDecl :=
  match Json.fields? ["key", "type", "label"] j with
  | some [key, type, label] => do
    return ⟨← Json.required? Json.str? key,
      ← Json.nullable? (Json.choice? ColumnType.byName) type, ← Json.nullable? Json.str? label⟩
  | _ => none

end ColumnDecl

namespace Column

def toJson (c : Column) : Json :=
  .obj [("key", .str c.key), ("type", .str c.type.name), ("label", .str c.label),
    ("examples", .arr (c.examples.map Cell.toJson))]

def decode? (j : Json) : Option Column :=
  match Json.fields? ["key", "type", "label", "examples"] j with
  | some [key, type, label, examples] => do
    return ⟨← Json.required? Json.str? key, ← Json.required? (Json.choice? ColumnType.byName) type,
      ← Json.required? Json.str? label, ← Json.orDefault? (Json.list? Cell.decode?) [] examples⟩
  | _ => none

end Column

namespace Schema

def toJson (s : Schema) : Json :=
  .obj [("columns", .arr (s.columns.map Column.toJson)), ("rowCount", .int s.rowCount),
    ("sampleRows", .arr (s.sampleRows.map Row.toJson))]

def decode? (j : Json) : Option Schema :=
  match Json.fields? ["columns", "rowCount", "sampleRows"] j with
  | some [columns, rowCount, sampleRows] => do
    return ⟨← Json.required? (Json.list? Column.decode?) columns,
      ← Json.required? Json.word? rowCount,
      ← Json.orDefault? (Json.list? Row.decode?) [] sampleRows⟩
  | _ => none

end Schema

end TableQuery
