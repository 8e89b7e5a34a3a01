import TableQuery.Decimal.Places
import TableQuery.Schema

/-! # Insights

What can be said about a dataset without being asked: its size, the average and range of
each column of numbers and the values that stand out, the commonest value of each column
of texts, and whether there are enough rows at all.
-/

namespace TableQuery

inductive InsightCategory where
  | trends
  | outliers
  | patterns
  | recommendations
  | summary
deriving DecidableEq, Repr, Inhabited

namespace InsightCategory

def name : InsightCategory → String
  | .trends => "trends"
  | .outliers => "outliers"
  | .patterns => "patterns"
  | .recommendations => "recommendations"
  | .summary => "summary"

/-- The category that a word stands for, or the word in lower case. -/
def ofText (s : String) : Except String InsightCategory :=
  match Text.lowered s with
  | "trends" => .ok .trends
  | "outliers" => .ok .outliers
  | "patterns" => .ok .patterns
  | "recommendations" => .ok .recommendations
  | "summary" => .ok .summary
  | other => .error other

def unknownMessage (word : String) : String := "unknown insight category '" ++ word ++ "'"

def all : List InsightCategory := [.trends, .outliers, .patterns, .recommendations, .summary]

end InsightCategory

/-- The figures behind an insight. -/
inductive InsightData where
  | size (rows columns : Nat)
  | statistics (column : String) (average least greatest sum : Float) (count : Nat)
  | outliers (column : String) (threshold : Float) (count : Nat)
  | commonest (column value : String) (count : Nat) (percentage : String)

def InsightData.toJson : InsightData → Json
  | .size rows columns => .obj [("rowCount", .int rows), ("columnCount", .int columns)]
  | .statistics column average least greatest sum count => .obj [
      ("column", .str column), ("avg", .float average), ("min", .float least),
      ("max", .float greatest), ("sum", .float sum), ("count", .int count)]
  | .outliers column threshold count => .obj [
      ("column", .str column), ("threshold", .float threshold), ("count", .int count)]
  | .commonest column value count percentage => .obj [
      ("column", .str column), ("topValue", .str value), ("count", .int count),
      ("percentage", .str percentage)]

structure Insight where
  category : InsightCategory
  title : String
  description : String
  /-- From zero to one. -/
  confidence : Float
  data : Option InsightData

namespace Insight

/-- Datasets of fewer rows get the advice to add more. -/
def smallDataset : Nat := 10

/-- Values so many standard deviations above the average stand out. -/
def outlierSigma : Float := 2

structure Statistics where
  count : Nat
  sum : Float
  mean : Float
  least : Float
  greatest : Float
  deviation : Float

def finiteNumbers (rows : List Row) (key : String) : List Float :=
  rows.filterMap fun r =>
    match r.get? key with
    | some (.number x) => if x.isFinite then some x else none
    | _ => none

/-- The sum of numbers from left to right, from the zero that leaves every number as it is. -/
def sumOf (xs : List Float) : Float := xs.foldl (· + ·) (-0.0)

def lesser (a b : Float) : Float := if b < a then b else a

def greater (a b : Float) : Float := if a < b then b else a

def squaredDistance (mean x : Float) : Float := (x - mean) * (x - mean)

/-- The figures of a column, if it holds a finite number. -/
def statistics? (rows : List Row) (key : String) : Option Statistics :=
  match finiteNumbers rows key with
  | [] => none
  | x :: xs =>
    let values := x :: xs
    let n := floatOfNat values.length
    let sum := sumOf values
    let mean := sum / n
    -- The variance of the column itself, not of what it may be a sample of.
    let variance := sumOf (values.map (squaredDistance mean)) / n
    some ⟨values.length, sum, mean, values.foldl lesser (infinite false),
      values.foldl greater (infinite true), variance.sqrt⟩

def ofSize (rows : List Row) (schema : Schema) : Insight where
  category := .summary
  title := "Data Overview"
  description := "Dataset contains " ++ toString rows.length ++ " records with " ++
    toString schema.columns.length ++ " columns."
  confidence := 1
  data := some (.size rows.length schema.columns.length)

def ofStatistics (column : Column) (s : Statistics) : Insight where
  category := .trends
  title := column.label ++ " Statistics"
  description := "Average: " ++ Decimal.fixed 2 s.mean ++ ", Range: " ++ Numeral.text s.least ++
    " - " ++ Numeral.text s.greatest
  confidence := 0.85
  data := some (.statistics column.key s.mean s.least s.greatest s.sum s.count)

/-- The number of rows whose number in a column is above a threshold. -/
def countAbove (rows : List Row) (key : String) (threshold : Float) : Nat :=
  rows.countP fun r =>
    match r.get? key with
    | some (.number x) => threshold < x
    | _ => false

def ofOutliers? (rows : List Row) (column : Column) (s : Statistics) : Option Insight :=
  let threshold := s.mean + outlierSigma * s.deviation
  let count := countAbove rows column.key threshold
  if count = 0 then none
  else some {
    category := .outliers
    title := "High " ++ column.label ++ " Values Detected"
    description := toString count ++ " records have " ++ column.label ++ " values above " ++
      Decimal.fixed 2 threshold ++ " (2 standard deviations above average)"
    confidence := 0.75
    data := some (.outliers column.key threshold count) }

/-- The text under which a row is counted: that of its cell, or none for a falsy cell. -/
def bucket (key : String) (row : Row) : String :=
  match row.get? key with
  | some cell => if cell.isFalsy then "" else cell.display
  | none => ""

/-- How often each text comes up, in the order in which they first do. -/
def tally (texts : List String) : List (String × Nat) :=
  texts.foldl (fun counts t => Assoc.insert t ((Assoc.get? t counts).getD 0 + 1) counts) []

/-- The first of the entries with the greatest count. -/
def commonest? : List (String × Nat) → Option (String × Nat)
  | [] => none
  | e :: rest => some (rest.foldl (fun best e => if best.2 < e.2 then e else best) e)

def ofPattern? (rows : List Row) (column : Column) : Option Insight :=
  (commonest? (tally (rows.map (bucket column.key)))).map fun (value, count) =>
    let percentage :=
      Decimal.fixed 1 (floatOfNat count / floatOfNat rows.length * 100)
    { category := .patterns
      title := column.label ++ " Distribution"
      description := "\"" ++ value ++ "\" is the most common value (" ++ percentage ++
        "% of records)"
      confidence := 0.8
      data := some (.commonest column.key value count percentage) }

def noData : Insight where
  category := .summary
  title := "No Data Available"
  description := "The dataset is empty. Add some data to see insights."
  confidence := 1
  data := none

def fewData : Insight where
  category := .recommendations
  title := "Add More Data"
  description := "Consider adding more records for more accurate insights."
  confidence := 0.9
  data := none

def ifWanted (wanted : List InsightCategory) (category : InsightCategory)
    (insights : List Insight) : List Insight :=
  if wanted.contains category then insights else []

def ofNumberColumn (rows : List Row) (wanted : List InsightCategory) (column : Column) :
    List Insight :=
  match statistics? rows column.key with
  | none => []
  | some s =>
    ifWanted wanted .trends [ofStatistics column s] ++
      ifWanted wanted .outliers (ofOutliers? rows column s).toList

def analyze (rows : List Row) (schema : Schema) (wanted : List InsightCategory) : List Insight :=
  if rows.isEmpty then [noData]
  else
    ifWanted wanted .summary [ofSize rows schema] ++
      (schema.columnsOfType .number).flatMap (ofNumberColumn rows wanted) ++
      ifWanted wanted .patterns ((schema.columnsOfType .string).filterMap (ofPattern? rows)) ++
      ifWanted wanted .recommendations (if rows.length < smallDataset then [fewData] else [])

def summarize (rows : List Row) (schema : Schema) : String :=
  "Dataset contains " ++ toString rows.length ++ " records across " ++
    toString schema.columns.length ++ " columns."

end Insight

end TableQuery
