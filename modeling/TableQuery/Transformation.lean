import TableQuery.Agent

/-! # Transformations

A transformation proposes new cells for a column or a row and changes nothing by itself:
it yields changes, which can be kept for review and applied later. For a column, the
distinct cells are mapped, at most fifty of them, and every row whose cell is mapped to
another one gets a change.
-/

namespace TableQuery

inductive TransformScope where
  | column
  | row
  | selection
  | table
deriving DecidableEq, Repr, Inhabited

def TransformScope.name : TransformScope → String
  | .column => "column"
  | .row => "row"
  | .selection => "selection"
  | .table => "table"

structure Transformation where
  id : String
  label : String
  scope : TransformScope
  /-- The column that is changed if no other is named. -/
  targetColumn : Option String
  template : String
  /-- Are the changes kept for review? -/
  preview : Bool
deriving DecidableEq, Repr, Inhabited

structure Change where
  rowIndex : Nat
  column : String
  oldValue : Cell
  newValue : Cell
deriving BEq, Inhabited

/-- Are two cells the same? A number that is none is the same as itself, and the two
    zeros are the same. -/
def Cell.same : Cell → Cell → Bool
  | .number x, .number y => x == y || (x.isNaN && y.isNaN)
  | a, b => a == b

structure Transformer where
  /-- New cells for distinct cells of a column; cells that are left out stay. -/
  mapValues : Transformation → String → List Cell → Except TransformError (List (Cell × Cell))
  /-- New cells for a row, given the filled-in question. -/
  reviseRow : String → Transformation → Row → Except TransformError (List (String × Cell))

namespace Transformer

/-- The text with its first character in upper case and the rest in lower case. -/
def capitalize : List Char → List Char
  | [] => []
  | c :: rest => Text.upperChar c ++ Text.lower rest

def cannedValues (id : String) (values : List Cell) : List (Cell × Cell) :=
  if Responder.mentions "standardize" id || Responder.mentions "normalize" id then
    values.filterMap fun v =>
      v.text?.map fun s => (v, .text (String.ofList (capitalize s.toList)))
  else if Responder.mentions "categorize" id || Responder.mentions "classify" id then
    values.map fun v => (v, .text "Category A")
  else values.map fun v => (v, v)

/-- The transformer that needs no service; it leaves rows as they are. -/
def offline : Transformer where
  mapValues := fun t _ values => .ok (cannedValues t.id values)
  reviseRow := fun _ _ _ => .ok []

end Transformer

/-- The number of distinct cells of a column that are mapped at most. -/
def maxDistinct : Nat := 50

/-- The first distinct cells, in order, besides those that were seen. -/
def distinctFrom (seen : List Cell) : List Cell → List Cell
  | [] => seen
  | v :: rest =>
    if seen.length = maxDistinct then seen
    else if seen.any (·.same v) then distinctFrom seen rest
    else distinctFrom (seen ++ [v]) rest

def distinct (values : List Cell) : List Cell := distinctFrom [] values

def changeOf? (rowIndex : Nat) (column : String) (oldValue newValue : Cell) : Option Change :=
  if newValue.same oldValue then none else some ⟨rowIndex, column, oldValue, newValue⟩

/-- The changes of a column, for the rows from an index on. -/
def columnChanges (mapping : List (Cell × Cell)) (column : String) :
    Nat → List Row → List Change
  | _, [] => []
  | index, row :: rest =>
    -- A missing cell counts as an empty one.
    let old := row.cell column
    let here := (mapping.find? (·.1.same old)).bind fun m => changeOf? index column old m.2
    here.toList ++ columnChanges mapping column (index + 1) rest

structure Workshop where
  transformations : List Transformation
  pending : List Change
deriving Inhabited

namespace Workshop

def find? (w : Workshop) (id : String) : Option Transformation :=
  w.transformations.find? (·.id = id)

def keep (w : Workshop) (t : Transformation) (changes : List Change) : Workshop :=
  if t.preview then { w with pending := changes } else w

def transformColumn (by_ : Transformer) (w : Workshop) (id : String) (rows : List Row)
    (column : Option String) : Except TransformError (List Change) × Workshop :=
  match w.find? id with
  | none => (.error (.unknownTransformation id), w)
  | some t =>
    match column <|> t.targetColumn with
    | none => (.error (.missingColumn id), w)
    | some column =>
      match by_.mapValues t column (distinct (rows.map (·.cell column))) with
      | .error why => (.error why, w)
      | .ok mapping =>
        let changes := columnChanges mapping column 0 rows
        (.ok changes, w.keep t changes)

def transformRow (by_ : Transformer) (w : Workshop) (id : String) (row : Row) (rowIndex : Nat) :
    Except TransformError (List Change) × Workshop :=
  match w.find? id with
  | none => (.error (.unknownTransformation id), w)
  | some t =>
    match by_.reviseRow (Template.fill row t.template) t row with
    | .error why => (.error why, w)
    | .ok cells =>
      let changes := cells.filterMap fun (column, value) =>
        changeOf? rowIndex column (row.cell column) value
      (.ok changes, w.keep t changes)

def clearPending (w : Workshop) : Workshop := { w with pending := [] }

end Workshop

/-- Apply a change to the rows; a change beyond the last row does nothing. -/
def applyChange (rows : List Row) (c : Change) : List Row :=
  rows.modify c.rowIndex fun row => row.insert c.column c.newValue

def applyChanges (rows : List Row) (changes : List Change) : List Row :=
  changes.foldl applyChange rows

end TableQuery
