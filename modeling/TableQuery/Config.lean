import TableQuery.Error
import TableQuery.Toml.Document
import TableQuery.Word

/-! # Configuration

How tables are shown, what results are written as and how the log is kept. Settings come
from a document with the tables `table`, `export` and `logging`, each with a default, and
variables of the surroundings replace them. Settings with other names are ignored.
-/

namespace TableQuery

namespace Toml

/-- The values of the fields with these names: by name from a table, in order from a list
    that gives at least so many of them, and none from a moment. -/
def fields? (names : List String) (needed : Nat) : Toml → Option (List (Option Toml))
  | .table _ entries => some (names.map (Assoc.get? · entries))
  | .arr items => inOrder items
  | .tables items => inOrder (items.map (Toml.table .header))
  | .moment => some (names.map fun _ => none)
  | _ => none
where
  inOrder (items : List Toml) : Option (List (Option Toml)) :=
    if needed ≤ items.length then some (names.mapIdx fun i _ => items[i]?) else none

def str? : Toml → Option String
  | .str s => some s
  | _ => none

def word? : Toml → Option UInt64
  | .int n => if 0 ≤ n then some n.toNat.toUInt64 else none
  | _ => none

/-- The value of a setting, or its default if it is not given. -/
def orDefault? {α : Type} (decode : Toml → Option α) (default : α) : Option Toml → Option α
  | some v => decode v
  | none => some default

end Toml

structure Config where
  pageSize : UInt64 := 10
  sampleSize : UInt64 := 5
  format : String := "table"
  logLevel : String := "info"
  logFormat : String := "pretty"
  logFile : Option String := none
deriving DecidableEq, Repr, Inhabited

namespace Config

def standard : Config := {}

def readTable? (c : Config) : Option Toml → Option Config
  | none => some c
  | some t => do
    match ← Toml.fields? ["page_size", "sample_size"] 0 t with
    | [pageSize, sampleSize] =>
      return { c with
        pageSize := ← Toml.orDefault? Toml.word? c.pageSize pageSize
        sampleSize := ← Toml.orDefault? Toml.word? c.sampleSize sampleSize }
    | _ => none

def readExport? (c : Config) : Option Toml → Option Config
  | none => some c
  | some t => do
    match ← Toml.fields? ["format"] 0 t with
    | [format] => return { c with format := ← Toml.orDefault? Toml.str? c.format format }
    | _ => none

def readLogging? (c : Config) : Option Toml → Option Config
  | none => some c
  | some t => do
    match ← Toml.fields? ["level", "format", "file"] 3 t with
    | [level, format, file] =>
      return { c with
        logLevel := ← Toml.orDefault? Toml.str? c.logLevel level
        logFormat := ← Toml.orDefault? Toml.str? c.logFormat format
        logFile := ← Toml.orDefault? (fun v => (Toml.str? v).map some) none file }
    | _ => none

def ofEntries? (entries : Toml.Entries) : Option Config := do
  let c ← standard.readTable? (Assoc.get? "table" entries)
  let c ← c.readExport? (Assoc.get? "export" entries)
  c.readLogging? (Assoc.get? "logging" entries)

def ofText? (s : String) : Option Config := (Toml.ofText? s).bind ofEntries?

def ofFile (path : String) (content : Except FileError String) : Except ConfigError Config :=
  match content with
  | .error why => .error (.unreadable path why)
  | .ok text => match ofText? text with
    | some c => .ok c
    | none => .error (.malformed path)

def wordOr (given : UInt64) (held : Option String) : UInt64 :=
  (held.bind Word.ofText?).getD given

/-- The settings as variables of the surroundings replace them. Variables for numbers that
    hold none are ignored. -/
def withVariables (c : Config) (env : String → Option String) : Config where
  pageSize := wordOr c.pageSize (env "TABULA_PAGE_SIZE")
  sampleSize := wordOr c.sampleSize (env "TABULA_SAMPLE_SIZE")
  format := (env "TABULA_OUTPUT_FORMAT").getD c.format
  logLevel := (env "TABULA_LOG_LEVEL").getD c.logLevel
  logFormat := (env "TABULA_LOG_FORMAT").getD c.logFormat
  logFile := c.logFile

/-- A document that gives every setting its default. -/
def sample : String :=
  "# Tabula Configuration\n" ++
  "#\n" ++
  "# Environment variables override these settings:\n" ++
  "# - TABULA_PAGE_SIZE\n" ++
  "# - TABULA_SAMPLE_SIZE\n" ++
  "# - TABULA_OUTPUT_FORMAT\n" ++
  "# - TABULA_LOG_LEVEL\n" ++
  "# - TABULA_LOG_FORMAT\n" ++
  "\n" ++
  "[table]\n" ++
  "# Rows shown per page\n" ++
  "page_size = 10\n" ++
  "\n" ++
  "# Sample rows kept in the schema\n" ++
  "sample_size = 5\n" ++
  "\n" ++
  "[export]\n" ++
  "# Output format for query results: table, json or csv\n" ++
  "format = \"table\"\n" ++
  "\n" ++
  "[logging]\n" ++
  "# Log level: trace, debug, info, warn, error\n" ++
  "level = \"info\"\n" ++
  "\n" ++
  "# Log format: pretty (for development) or json (for production)\n" ++
  "format = \"pretty\"\n" ++
  "\n" ++
  "# Optional log file path\n" ++
  "# file = \"/var/log/tabula/tabula.log\"\n"

end Config

end TableQuery
