import TableQuery.Csv.Writer
import TableQuery.Dataset
import TableQuery.Schema

/-! # Writing results

Rows are written as comma-separated text under the labels of columns, where missing and
empty cells leave empty fields, or as a JSON array of objects. Without rows the
comma-separated text is empty.
-/

namespace TableQuery.Export

/-- The text of a cell that may be missing; missing and empty cells have none. -/
def fieldText : Option Cell → String
  | none => ""
  | some .null => ""
  | some cell => cell.display

def record (columns : List Column) (row : Row) : List (List Char) :=
  columns.map fun c => (fieldText (row.get? c.key)).toList

def header (columns : List Column) : List (List Char) := columns.map (·.label.toList)

def toCsv (columns : List Column) : List Row → List Char
  | [] => []
  | rows => Csv.render (header columns :: rows.map (record columns))

def toJson (rows : List Row) : Json := .arr (rows.map Row.toJson)

def text (format : DataFormat) (columns : List Column) (rows : List Row) : String :=
  match format with
  | .csv => String.ofList (toCsv columns rows)
  | .json => (toJson rows).pretty

/-- The name of an exported file from the digits of the day and of the time of day. -/
def fileName (format : DataFormat) (day time : String) : String :=
  "tabula_export_" ++ day ++ "_" ++ time ++ "." ++ format.extension

def pathIn (folder name : String) : String :=
  if folder.isEmpty || folder.toList.getLast? == some '/' then folder ++ name
  else folder ++ "/" ++ name

/-- Where a result is written: to the path itself, or to a new file in the folder there. -/
def destination (isFolder : Bool) (path : String) (format : DataFormat) (day time : String) :
    String :=
  if isFolder then pathIn path (fileName format day time) else path

end TableQuery.Export
