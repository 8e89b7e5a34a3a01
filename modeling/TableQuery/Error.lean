import TableQuery.Text.Quoted

/-! # Errors

Every way in which an operation on tables can fail, as a cause, and the text of each.
-/

namespace TableQuery

inductive SchemaError where
  | duplicateColumn (key : String)
  | emptyKey
  | unknownType (name : String)
deriving DecidableEq, Repr

def SchemaError.message : SchemaError → String
  | .duplicateColumn key => "Duplicate column key: " ++ key
  | .emptyKey => "Column key must not be empty"
  | .unknownType name => "Unknown column type: " ++ name

/-- What can be wrong with the shape of a condition's value. -/
inductive ShapeError where
  /-- A range needs two values. -/
  | needsPair (operator key : String)
  /-- Membership needs a list. -/
  | needsList (operator key : String)
  /-- All other operators need one value. -/
  | needsScalar (operator key : String)
  | badPattern
deriving DecidableEq, Repr

def ShapeError.message : ShapeError → String
  | .needsPair operator key => operator ++ " on '" ++ key ++ "' requires a [low, high] pair"
  | .needsList operator key => operator ++ " on '" ++ key ++ "' requires a list of values"
  | .needsScalar operator key => operator ++ " on '" ++ key ++ "' requires a single value"
  | .badPattern => "the value is not a pattern"

inductive QueryError where
  | unknownColumn (name : String)
  | invalidFilter (why : ShapeError)
  | invalidSort (column : String)
deriving DecidableEq, Repr

def QueryError.message : QueryError → String
  | .unknownColumn name => "Unknown column: " ++ name
  | .invalidFilter why => "Invalid filter: " ++ why.message
  | .invalidSort column => "Invalid sort: unknown column '" ++ column ++ "'"

inductive AgentError where
  | unknownAgent (id : String)
  | singleRow (id : String)
  | responder (id message : String)
deriving DecidableEq, Repr

def AgentError.message : AgentError → String
  | .unknownAgent id => "Unknown agent: " ++ id
  | .singleRow id => "Agent '" ++ id ++ "' runs on a single row"
  | .responder id message => "Agent '" ++ id ++ "' failed: " ++ message

inductive TransformError where
  | unknownTransformation (id : String)
  | missingColumn (id : String)
  | responder (id message : String)
deriving DecidableEq, Repr

def TransformError.message : TransformError → String
  | .unknownTransformation id => "Unknown transformation: " ++ id
  | .missingColumn id => "Transformation '" ++ id ++ "' needs a target column"
  | .responder id message => "Transformation '" ++ id ++ "' failed: " ++ message

inductive FileError where
  | notFound
  | denied
  | isDirectory
  | notDirectory
  | notText
  | other (text : String)
deriving DecidableEq, Repr

def FileError.message : FileError → String
  | .notFound => "No such file or directory (os error 2)"
  | .denied => "Permission denied (os error 13)"
  | .isDirectory => "Is a directory (os error 21)"
  | .notDirectory => "Not a directory (os error 20)"
  | .notText => "stream did not contain valid UTF-8"
  | .other text => text

inductive ConfigError where
  | unreadable (path : String) (why : FileError)
  | malformed (path : String)
deriving DecidableEq, Repr

def ConfigError.message : ConfigError → String
  | .unreadable path why =>
    "Failed to read config file " ++ Text.Quoted.render path ++ ": " ++ why.message
  | .malformed path =>
    "Failed to parse config file " ++ Text.Quoted.render path ++ ": the text is malformed"

inductive FilterError where
  | unknownLevel
  | malformed
deriving DecidableEq, Repr

def FilterError.message : FilterError → String
  | .unknownLevel =>
    "error parsing level filter: expected one of \"off\", \"error\", \"warn\", \"info\", " ++
      "\"debug\", \"trace\", or a number 0-5"
  | .malformed => "invalid filter directive"

inductive LogError where
  | badLevel (level : String) (why : FilterError)
  | badFormat (format : String)
deriving DecidableEq, Repr

def LogError.message : LogError → String
  | .badLevel level why => "invalid level '" ++ level ++ "': " ++ why.message
  | .badFormat format => "unknown log format '" ++ format ++ "'"

/-- Every way in which an operation on tables can fail. -/
inductive TableError where
  | file (why : FileError)
  | malformedJson
  | rowsExpected
  /-- The file of a document cannot be read. -/
  | unreadableJson (why : FileError)
  | malformedCsv
  /-- The file of comma-separated text cannot be read. -/
  | unreadableCsv (why : FileError)
  | schema (why : SchemaError)
  | query (why : QueryError)
  | config (why : ConfigError)
  | agent (why : AgentError)
  | transform (why : TransformError)
  /-- No dataset is read from files with this extension. -/
  | unsupportedFile (extension : String)
  /-- Nothing is written in this format. -/
  | unsupportedFormat (format : String)
  | log (why : LogError)
deriving DecidableEq, Repr

namespace TableError

/-- The text of the cause that an error names in its own text, if there is one. -/
def cause? : TableError → Option String
  | .file why => some why.message
  | .schema why => some why.message
  | .query why => some why.message
  | .config why => some why.message
  | .agent why => some why.message
  | .transform why => some why.message
  | _ => none

def message : TableError → String
  | .file why => "IO error: " ++ why.message
  | .malformedJson => "JSON error: the text is malformed"
  | .rowsExpected => "JSON error: expected a top-level array of row objects"
  | .unreadableJson why => "JSON error: " ++ why.message
  | .malformedCsv => "CSV error: the text is malformed"
  | .unreadableCsv why => "CSV error: " ++ why.message
  | .schema why => "Schema error: " ++ why.message
  | .query why => "Query error: " ++ why.message
  | .config why => "Config error: " ++ why.message
  | .agent why => "Agent error: " ++ why.message
  | .transform why => "Transform error: " ++ why.message
  | .unsupportedFile extension =>
    "Unsupported format: cannot load '." ++ extension ++ "' files (expected .json or .csv)"
  | .unsupportedFormat format => "Unsupported format: " ++ format
  | .log why => "Logging error: " ++ why.message

end TableError

end TableQuery
