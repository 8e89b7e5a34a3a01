import TableQuery.Cell

/-! # Rows

A row maps the keys of columns to cells and keeps its fields in the order in which their
keys were first written. Each key stands once.
-/

namespace TableQuery

/-- A record of a table. -/
structure Row where
  fields : List (String × Cell)
  keysDistinct : (Assoc.keys fields).Nodup

namespace Row

def empty : Row := ⟨[], by simp⟩

instance : Inhabited Row := ⟨empty⟩

def get? (r : Row) (key : String) : Option Cell := Assoc.get? key r.fields

/-- Write a cell under a key. -/
def insert (r : Row) (key : String) (value : Cell) : Row :=
  ⟨Assoc.insert key value r.fields, Assoc.nodup_keys_insert key value r.keysDistinct⟩

def ofList (fields : List (String × Cell)) : Row :=
  ⟨Assoc.ofList fields, Assoc.nodup_keys_ofList fields⟩

def keys (r : Row) : List String := Assoc.keys r.fields

/-- The cell under a key, empty if there is none. -/
def cell (r : Row) (key : String) : Cell := (r.get? key).getD .null

def ofJson? : Json → Option Row
  | .obj members => some (ofList (members.map fun (k, v) => (k, Cell.ofJson v)))
  | _ => none

def toJson (r : Row) : Json := .obj (r.fields.map fun (k, c) => (k, c.toJson))

@[simp] theorem get?_insert (r : Row) (key other : String) (value : Cell) :
    (r.insert key value).get? other = if key = other then some value else r.get? other :=
  Assoc.get?_insert key other value r.fields

end Row

end TableQuery
