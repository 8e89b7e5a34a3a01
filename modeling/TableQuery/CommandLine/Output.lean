import TableQuery.Agent.Encoding
import TableQuery.Grid
import TableQuery.Insight
import TableQuery.Schema.Encoding
import TableQuery.Session
import TableQuery.Transformation.Encoding

/-! # What commands print

The texts that commands print, as JSON if that is asked for and for people otherwise. Each
text ends with a line break.
-/

namespace TableQuery.CommandLine.Output

def ofLines (lines : List String) : String := String.join (lines.map (· ++ "\n"))

def ofJson (v : Json) : String := v.pretty ++ "\n"

def padded (width : Nat) (s : String) : String :=
  s ++ String.ofList (List.replicate (width - s.length) ' ')

def pageJson (p : Page Entry) : Json :=
  .obj [("rows", Export.toJson (rowsOf p.items)), ("index", .int p.index.toNat),
    ("size", .int p.size.toNat), ("total", .int p.total), ("totalPages", .int p.pages)]

/-- The page that a session shows. -/
def ofSession (format : String) (s : Session) : String :=
  let view := s.view
  let page := s.page
  if format = "json" then
    ofJson <| .obj [("query", view.plan.toJson), ("filteredCount", .int view.filteredCount),
      ("matchedCount", .int view.matchedCount), ("page", pageJson page)]
  else if format = "csv" then
    Export.text .csv s.schema.columns (rowsOf page.items) ++ "\n"
  else
    ofLines <|
      [view.plan.explanation,
        toString view.matchedCount ++ " of " ++ toString s.rows.length ++ " rows matched", ""] ++
      (Grid.lines s.schema.columns (rowsOf page.items)).map String.ofList ++
      ["", "Page " ++ toString (page.index + 1).toNat ++ " of " ++ toString (max page.pages 1)]

def columnLine (c : Column) : String :=
  padded 20 c.key ++ " " ++ padded 8 c.type.name ++ " " ++ c.label

def ofSchema (format : String) (s : Schema) : String :=
  if format = "json" then ofJson s.toJson
  else
    ofLines <|
      [toString s.rowCount ++ " rows, " ++ toString s.columns.length ++ " columns", ""] ++
      s.columns.map columnLine

/-- So many digits of base 16 of a number, in lower case. -/
def hexText (count n : Nat) : List Char :=
  (List.range count).map fun i => Json.hexDigit (n >>> (4 * (count - 1 - i)) % 16)

/-- The id of the insight at a place, made from a random number of 128 bits. The digits that
    stand for the version and the variant of such ids are set. -/
def insightId (random place : Nat) : String :=
  let n := random + place
  let parts := [hexText 8 (n >>> 96), hexText 4 (n >>> 80),
    '4' :: hexText 3 (n >>> 64), Json.hexDigit (8 + n >>> 60 % 4) :: hexText 3 (n >>> 48),
    hexText 12 n]
  "insight-" ++ String.ofList (Grid.joinWith ['-'] parts)

def insightJson (id : String) (i : Insight) : Json :=
  .obj ([("id", .str id), ("category", .str i.category.name), ("title", .str i.title),
    ("description", .str i.description), ("confidence", .float i.confidence)] ++
    Json.memberIf "data" (i.data.map InsightData.toJson))

def insightLines (i : Insight) : List String :=
  ["[" ++ i.category.name ++ "] " ++ i.title ++ " (" ++ Decimal.fixed 0 (i.confidence * 100) ++
    "% confidence)", "    " ++ i.description]

def ofInsights (format : String) (idAt : Nat → String) (insights : List Insight) : String :=
  if format = "json" then ofJson (.arr (insights.mapIdx fun n i => insightJson (idAt n) i))
  else ofLines (insights.flatMap insightLines)

def ofResults (format time : String) (results : List AgentResult) : String :=
  if format = "json" then ofJson (.arr (results.map (AgentResult.toJson time)))
  else ofLines (results.map fun r => "[" ++ r.rowId.display ++ "] " ++ r.text)

def changeLine (c : Change) : String :=
  "row " ++ toString c.rowIndex ++ ": " ++ c.oldValue.display ++ " -> " ++ c.newValue.display

def ofChanges (format : String) (changes : List Change) : String :=
  if format = "json" then ofJson (.arr (changes.map Change.toJson))
  else ofLines (changes.map changeLine ++ [toString changes.length ++ " changes"])

end TableQuery.CommandLine.Output
