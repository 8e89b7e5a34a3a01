import TableQuery.Error
import TableQuery.Condition
import TableQuery.Row

/-! # Schemas

A schema describes the columns of a dataset: their keys, types and labels, and example
cells. The columns are declared, or taken from the first row. Conditions and sorts can be
made with a schema, which finds the column by key or label and checks the value.
-/

namespace TableQuery

inductive ColumnType where
  | string
  | number
  | date
  | boolean
deriving DecidableEq, Repr, Inhabited

namespace ColumnType

def name : ColumnType → String
  | .string => "string"
  | .number => "number"
  | .date => "date"
  | .boolean => "boolean"

def ofText (s : String) : Except SchemaError ColumnType :=
  match Text.lowered s with
  | "string" | "text" => .ok .string
  | "number" | "numeric" => .ok .number
  | "date" => .ok .date
  | "boolean" | "bool" => .ok .boolean
  | other => .error (.unknownType other)

end ColumnType

structure ColumnDecl where
  key : String
  type : Option ColumnType
  label : Option String
deriving DecidableEq, Repr, Inhabited

namespace ColumnDecl

/-- Cut at the first colon: what is before it, and what is behind it if there is one. -/
def cutColon (s : List Char) : List Char × Option (List Char) :=
  (s.takeWhile (· != ':'), match s.dropWhile (· != ':') with
    | [] => none
    | _ :: rest => some rest)

def nonBlank? (s : Option (List Char)) : Option String :=
  match s.map Text.trim with
  | none => none
  | some [] => none
  | some cs => some (String.ofList cs)

/-- The declaration that a text `key`, `key:type` or `key:type:label` stands for. -/
def ofText (s : String) : Except SchemaError ColumnDecl :=
  let (key, afterKey) := cutColon s.toList
  let (type, label) := match afterKey with
    | none => (none, none)
    | some rest => let (type, label) := cutColon rest; (some type, label)
  let key := String.ofList (Text.trim key)
  if key.isEmpty then .error .emptyKey
  else match nonBlank? type with
    | none => .ok ⟨key, none, nonBlank? label⟩
    | some name =>
      match ColumnType.ofText name with
      | .ok type => .ok ⟨key, some type, nonBlank? label⟩
      | .error why => .error why

end ColumnDecl

structure Column where
  key : String
  type : ColumnType
  label : String
  examples : List Cell
deriving BEq, Inhabited

namespace Column

/-- Is this, whatever its case, the key or the label of the column? -/
def hasName (c : Column) (name : String) : Bool :=
  let n := Text.lowered name
  Text.lowered c.key == n || Text.lowered c.label == n

/-- The characters of a key behind the first, with a space before each capital letter. -/
def spaceCapitals (s : List Char) : List Char :=
  s.flatMap fun c => if Text.isUppercase c then [' ', c] else [c]

/-- The label of a key: the first character as a capital, and a space before each
    capital letter behind it. -/
def labelOfKey (key : String) : String :=
  match key.toList with
  | [] => ""
  | c :: rest => String.ofList (Text.upperChar c ++ spaceCapitals rest)

end Column

structure Schema where
  columns : List Column
  rowCount : Nat
  sampleRows : List Row

namespace Schema

def defaultSampleSize : Nat := 5

/-- The declarations that the first row stands for. -/
def declsOfRows : List Row → List ColumnDecl
  | [] => []
  | first :: _ => first.fields.map fun (key, cell) =>
    let type : ColumnType := match cell with
      | .number _ => .number
      | _ => .string
    ⟨key, some type, some (Column.labelOfKey key)⟩

/-- The column of a declaration, with the cells of the sample rows as examples. -/
def resolve (sample : List Row) (d : ColumnDecl) : Column where
  key := d.key
  type := d.type.getD .string
  label := d.label.getD d.key
  examples := sample.map fun r => r.cell d.key

/-- The columns of declarations whose keys are not empty and differ from each other and
    from the keys before them. -/
def resolveAll (sample : List Row) (seen : List String) :
    List ColumnDecl → Except SchemaError (List Column)
  | [] => .ok []
  | d :: rest =>
    if d.key.isEmpty then .error .emptyKey
    else if seen.contains d.key then .error (.duplicateColumn d.key)
    else match resolveAll sample (d.key :: seen) rest with
      | .ok cs => .ok (resolve sample d :: cs)
      | .error why => .error why

def effectiveDecls (rows : List Row) : Option (List ColumnDecl) → List ColumnDecl
  | some (d :: ds) => d :: ds
  | _ => declsOfRows rows

/-- The schema of rows with declared columns or those of the first row, and so many rows
    as examples. -/
def build (rows : List Row) (decls : Option (List ColumnDecl)) (sampleSize : Nat) :
    Except SchemaError Schema :=
  let sample := rows.take sampleSize
  match resolveAll sample [] (effectiveDecls rows decls) with
  | .ok columns => .ok ⟨columns, rows.length, sample⟩
  | .error why => .error why

def column? (s : Schema) (name : String) : Option Column :=
  s.columns.find? (·.hasName name)

def columnsOfType (s : Schema) (type : ColumnType) : List Column :=
  s.columns.filter (·.type = type)

/-- What is wrong with the shape of a value for an operator, if something is. -/
def shapeError? (key : String) (operator : Operator) (value : Operand) : Option ShapeError :=
  match operator, value with
  | .between, .list [_, _] => none
  | .between, _ => some (.needsPair operator.name key)
  | .oneOf, .list _ => none
  | .oneOf, .scalar _ => some (.needsList operator.name key)
  | _, .list _ => some (.needsScalar operator.name key)
  | .regex, .scalar v =>
    if (Pattern.caseless? v.display.toList).isSome then none else some .badPattern
  | _, .scalar _ => none

def condition (s : Schema) (column : String) (operator : Operator) (value : Operand) :
    Except QueryError Condition :=
  match s.column? column with
  | none => .error (.unknownColumn column)
  | some c =>
    match shapeError? c.key operator value with
    | some why => .error (.invalidFilter why)
    | none => .ok ⟨c.key, operator, value⟩

def sort (s : Schema) (column : String) (order : SortOrder) : Except QueryError SortKey :=
  match s.column? column with
  | none => .error (.invalidSort column)
  | some c => .ok ⟨c.key, order⟩

def suggestions (s : Schema) : List String := s.columns.map fun c => "Show " ++ c.label

end Schema

end TableQuery
