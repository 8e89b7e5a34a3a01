import TableQuery.Insight
import TableQuery.Schema
import TableQuery.Word

/-! # The forms of commands

Which commands there are, and the arguments and options that each of them takes. The words
of a command line are read by these forms, and the help texts are written from them.
-/

namespace TableQuery.CommandLine

/-- An argument: a word whose meaning is its place. -/
structure ArgumentForm where
  name : String
  about : String
  /-- What it is if it is not given; it must be given if there is nothing. -/
  default : Option String := none
  /-- Can it be the word? -/
  accepts : String → Bool := fun _ => true

structure OptionForm where
  long : String
  short : Option Char := none
  value : String
  about : String
  default : Option String := none
  isRepeatable : Bool := false
  accepts : String → Bool := fun _ => true

structure CommandForm where
  name : String
  about : String
  arguments : List ArgumentForm
  options : List OptionForm

def isPath (s : String) : Bool := !s.isEmpty

def isWord (s : String) : Bool := (Word.ofText? s).isSome

/-- The options that stand before or behind the name of any command. -/
def commonOptions : List OptionForm := [
  { long := "config", value := "CONFIG", accepts := isPath
    about := "Config file (default: <config dir>/tabula/config.toml, then ./tabula.toml)" },
  { long := "format", short := some 'f', value := "FORMAT"
    about := "Output format (table, json, csv)" },
  { long := "column", short := some 'c', value := "COLUMNS", isRepeatable := true
    accepts := fun s => (ColumnDecl.ofText s).isOk
    about := "Column declaration key[:type[:label]], repeatable (default: derived from the first row)" }]

def datasetFile : ArgumentForm where
  name := "FILE"
  about := "Dataset file (.json or .csv)"
  accepts := isPath

def outputFile (about : String) : OptionForm where
  long := "output"
  short := some 'o'
  value := "OUTPUT"
  about := about
  accepts := isPath

def commands : List CommandForm := [
  { name := "query"
    about := "Run a query and print one page of the result"
    arguments := [datasetFile,
      { name := "TEXT", default := some ""
        about := "Query text, e.g. \"status is shipped sort by total desc\"" }]
    options := [
      { long := "page", short := some 'p', value := "PAGE", default := some "1", accepts := isWord
        about := "Page number, starting at 1" },
      { long := "page-size", value := "PAGE_SIZE", accepts := isWord
        about := "Rows per page (default: from config)" }] },
  { name := "schema"
    about := "Print the derived schema"
    arguments := [datasetFile]
    options := [] },
  { name := "insights"
    about := "Generate dataset insights"
    arguments := [datasetFile]
    options := [
      { long := "category", value := "CATEGORIES", isRepeatable := true
        accepts := fun s => (InsightCategory.ofText s).isOk
        about := "Categories to include (trends, outliers, patterns, recommendations, summary)" }] },
  { name := "suggest"
    about := "Print example queries for a dataset"
    arguments := [datasetFile]
    options := [] },
  { name := "agent"
    about := "Run a row agent over a dataset"
    arguments := [datasetFile,
      { name := "ID", about := "Agent id (explain, predict, classify, draft, summarize, ...)" },
      { name := "TEMPLATE"
        about := "Prompt template with \x7b\x7bcolumn\x7d\x7d placeholders" }]
    options := [
      { long := "row", value := "ROW", accepts := isWord
        about := "Only run on the row at this position (0-indexed)" }] },
  { name := "transform"
    about := "Transform one column and print the proposed changes"
    arguments := [datasetFile,
      { name := "ID"
        about := "Transformation id (standardize, normalize, categorize, classify, translate, ...)" },
      { name := "COLUMN", about := "Column to transform" }]
    options := [
      { long := "template", value := "TEMPLATE", default := some ""
        about := "Prompt template with \x7b\x7bcolumn\x7d\x7d placeholders" },
      outputFile "Write the transformed dataset to this file or directory"] },
  { name := "export"
    about := "Export query results as CSV or JSON"
    arguments := [datasetFile,
      { name := "TEXT", default := some "", about := "Query text (default: all rows)" }]
    options := [
      outputFile "Output file, or a directory for a timestamped file (default: stdout)"] },
  { name := "config"
    about := "Generate default config file"
    arguments := []
    options := [outputFile "Output path (default: stdout)"] }]

def command? (name : String) : Option CommandForm := commands.find? (·.name = name)

end TableQuery.CommandLine
