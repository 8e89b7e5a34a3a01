import TableQuery.Csv.Reader
import TableQuery.Error
import TableQuery.Json.Reader
import TableQuery.Row
import TableQuery.Text.Case

/-! # Reading datasets

Rows come from a JSON array of objects or from comma-separated text whose first record
names the columns. The cells of comma-separated text are typed: blank ones are empty,
`true` and `false` are truth values, decimal numerals of finite value are numbers, and
all others are texts as they stand.
-/

namespace TableQuery

inductive DataFormat where
  | csv
  | json
deriving DecidableEq, Repr, Inhabited

namespace DataFormat

def extension : DataFormat → String
  | .csv => "csv"
  | .json => "json"

def ofText (s : String) : Except TableError DataFormat :=
  match Text.lowered s with
  | "csv" => .ok .csv
  | "json" => .ok .json
  | other => .error (.unsupportedFormat other)

end DataFormat

namespace FilePath

/-- The parts of a path between its slashes, without those that stay in place. -/
def parts (path : List Char) : List (List Char) :=
  (path.splitOn '/').filter fun p => p ≠ [] ∧ p ≠ ['.']

def fileName? (path : List Char) : Option (List Char) :=
  match (parts path).getLast? with
  | some p => if p = ['.', '.'] then none else some p
  | none => none

/-- The part of a file's name behind its last dot. A dot that begins the name does not
    count, and a name without a dot has no extension. -/
def extensionOf (name : List Char) : List Char :=
  let behind := name.reverse.takeWhile (· != '.')
  let ahead := name.reverse.drop (behind.length + 1)
  if ahead.isEmpty then [] else behind.reverse

def extension (path : List Char) : List Char := ((fileName? path).map extensionOf).getD []

end FilePath

def DataFormat.ofPath (path : String) : Except TableError DataFormat :=
  let extension := String.ofList (Text.lower (FilePath.extension path.toList))
  if extension = "json" then .ok .json
  else if extension = "csv" then .ok .csv
  else .error (.unsupportedFile extension)

/-- The cell that a field of comma-separated text stands for. -/
def Cell.infer (raw : List Char) : Cell :=
  let t := Text.trim raw
  if t.isEmpty then .null
  else if Text.eqIgnoringAsciiCase t ['t', 'r', 'u', 'e'] then .bool true
  else if Text.eqIgnoringAsciiCase t ['f', 'a', 'l', 's', 'e'] then .bool false
  else match Numeral.decimal? t with
    | some x => if x.isFinite then .number x else .text (String.ofList raw)
    | none => .text (String.ofList raw)

namespace Row

def ofRecord (headers : List String) (record : List (List Char)) : Row :=
  ofList (fieldsFrom headers record)
where
  /-- The headers with their cells; fields that are missing leave empty cells. -/
  fieldsFrom : List String → List (List Char) → List (String × Cell)
    | [], _ => []
    | h :: hs, [] => (h, .null) :: fieldsFrom hs []
    | h :: hs, f :: fs => (h, Cell.infer f) :: fieldsFrom hs fs

end Row

namespace Dataset

/-- The rows of the records behind the first, which names their columns. -/
def ofRecords : List (List (List Char)) → List Row
  | [] => []
  | header :: records => records.map (Row.ofRecord (header.map String.ofList))

/-- The rows of a JSON text; items of the array that are no objects are left out. -/
def ofJsonChars (s : List Char) : Except TableError (List Row) :=
  match Json.ofChars? s with
  | none => .error .malformedJson
  | some (.arr items) => .ok (items.filterMap Row.ofJson?)
  | some _ => .error .rowsExpected

/-- The rows of bytes in a format. Fields that are no texts make a table malformed. -/
def ofBytes (format : DataFormat) (bytes : ByteArray) : Except TableError (List Row) :=
  match format with
  | .csv => match Csv.records? bytes.data.toList with
    | some records => .ok (ofRecords records)
    | none => .error .malformedCsv
  | .json => match String.fromUTF8? bytes with
    | some text => ofJsonChars text.toList
    | none => .error .malformedJson

end Dataset

end TableQuery
