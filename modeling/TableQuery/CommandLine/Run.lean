import TableQuery.CommandLine.Output
import TableQuery.CommandLine.Request
import TableQuery.Config
import TableQuery.Disk
import TableQuery.Log

/-! # Running command lines

A command line is run over a file system: the configuration is read, the settings for the
log are checked, and then the command reads its dataset and prints or writes its result.
A failure says what could not be done and why.
-/

namespace TableQuery.CommandLine

/-- What a run takes from outside, besides the words and the files. -/
structure Surroundings where
  env : String → Option String
  time : String
  /-- The digits of the day and of the time of day for names of files. -/
  day : String
  clock : String
  /-- The ids of insights by their places. -/
  insightId : Nat → String

def variableNames : List String := [
  "HOME", "XDG_CONFIG_HOME", "TABULA_PAGE_SIZE", "TABULA_SAMPLE_SIZE", "TABULA_OUTPUT_FORMAT",
  "TABULA_LOG_LEVEL", "TABULA_LOG_FORMAT"]

/-- What a run leaves besides files: the exit code and what it printed. -/
structure Report where
  code : Nat
  output : String
  complaint : String
deriving DecidableEq, Repr

/-- Why a run failed: what could not be done, and the causes, each the cause of the one
    before it. -/
structure Failure where
  what : String
  causes : List String
deriving DecidableEq, Repr

namespace Failure

def ofError (e : TableError) : Failure := ⟨e.message, e.cause?.toList⟩

def because (what : String) (e : TableError) : Failure := ⟨what, e.message :: e.cause?.toList⟩

def indentRest (indent : String) (s : String) : String :=
  String.ofList (s.toList.flatMap fun c => if c = '\n' then '\n' :: indent.toList else [c])

def numbered (causes : List String) : List String :=
  causes.mapIdx fun n cause =>
    let number := toString n
    String.ofList (List.replicate (5 - number.length) ' ') ++ number ++ ": " ++
      indentRest "       " cause

/-- The text of a failure: the causes have numbers if there are several. -/
def text (f : Failure) : String :=
  "Error: " ++ f.what ++ "\n" ++
    match f.causes with
    | [] => ""
    | [cause] => "\nCaused by:\n    " ++ indentRest "    " cause ++ "\n"
    | causes => "\nCaused by:\n" ++ Output.ofLines (numbered causes)

def report (f : Failure) : Report := ⟨1, "", f.text⟩

end Failure

namespace Report

def printed (output : String) : Report := ⟨0, output, ""⟩

def noted (note : String) : Report := ⟨0, "", note ++ "\n"⟩

def misused : Report := ⟨2, "", Help.ofProgram false⟩

end Report

/-! ## Settings -/

/-- The folder of configurations: the one that is named from the root, or else the usual one
    at home. -/
def configFolder? (env : String → Option String) : Option String :=
  let named := (env "XDG_CONFIG_HOME").filter fun s => s.toList.head? = some '/'
  let home := (env "HOME").filter fun s => !s.isEmpty
  named <|> home.map fun s => Export.pathIn s ".config"

/-- The paths at which a configuration is looked for if none is named. -/
def usualConfigs (env : String → Option String) : List String :=
  ((configFolder? env).map fun s => Export.pathIn s "tabula/config.toml").toList ++
    ["./tabula.toml"]

def asText (content : Except FileError ByteArray) : Except FileError String :=
  match content with
  | .error why => .error why
  | .ok bytes => match String.fromUTF8? bytes with
    | some text => .ok text
    | none => .error .notText

variable {m : Type → Type} [Monad m]

def readConfig (disk : Disk m) (path : String) : m (Except ConfigError Config) := do
  return Config.ofFile path (asText (← disk.read path))

/-- The settings of the first file that has some, or else those of no file. -/
def findConfig (disk : Disk m) : List String → m Config
  | [] => return Config.standard
  | path :: rest => do
    match ← readConfig disk path with
    | .ok c => return c
    | .error _ => findConfig disk rest

/-- The settings of the named file, or of the usual ones, as variables replace them. -/
def config (disk : Disk m) (around : Surroundings) (path : Option String) :
    ExceptT Failure m Config := do
  match path with
  | none =>
    let c ← (findConfig disk (usualConfigs around.env) : m Config)
    return c.withVariables around.env
  | some path =>
    match ← (readConfig disk path : m (Except ConfigError Config)) with
    | .ok c => return c.withVariables around.env
    | .error why => throw ⟨"failed to load config " ++ path, [why.message]⟩

/-- Check the settings for the log and make sure that its file is there. -/
def openLog (disk : Disk m) (c : Config) : ExceptT Failure m Unit := do
  let what := "failed to initialise logging"
  match Log.check c.logLevel c.logFormat with
  | .error why => throw (.because what (.log why))
  | .ok _ =>
    match c.logFile with
    | none => return
    | some path =>
      match ← disk.touch path with
      | .ok _ => return
      | .error why => throw (.because what (.file why))

/-! ## Datasets and results -/

/-- The rows of a dataset from what reading its file gave. A folder can be opened, but
    nothing can be read from it. -/
def rowsOfFile (format : DataFormat) (content : Except FileError ByteArray) :
    Except TableError (List Row) :=
  match content, format with
  | .ok bytes, format => Dataset.ofBytes format bytes
  | .error .isDirectory, .json => .error (.unreadableJson .isDirectory)
  | .error .isDirectory, .csv => .error (.unreadableCsv .isDirectory)
  | .error why, _ => .error (.file why)

def loadTable (disk : Disk m) (c : Config) (columns : List ColumnDecl) (path : String) :
    ExceptT Failure m (List Row × Schema) := do
  let what := "failed to load " ++ path
  match DataFormat.ofPath path with
  | .error why => throw (.because what why)
  | .ok format =>
    match rowsOfFile format (← disk.read path) with
    | .error why => throw (.because what why)
    | .ok rows =>
      match Schema.build rows (some columns) c.sampleSize.toNat with
      | .error why => throw ⟨"invalid column declarations", [why.message]⟩
      | .ok schema => return (rows, schema)

def writeFile (disk : Disk m) (path text : String) : ExceptT Failure m Unit := do
  match ← disk.write path text with
  | .ok _ => return
  | .error why => throw ⟨"failed to write " ++ path, [why.message]⟩

/-- The format of written results; a table is written as comma-separated text. -/
def exportFormat (format : String) : Except TableError DataFormat :=
  if format = "table" then .ok .csv else DataFormat.ofText format

def orThrow {α : Type} : Except TableError α → ExceptT Failure m α
  | .ok a => return a
  | .error why => throw (.ofError why)

def destination (disk : Disk m) (around : Surroundings) (path : String) (format : DataFormat) :
    m String := do
  return Export.destination (← disk.isFolder path) path format around.day around.clock

/-! ## Commands -/

/-- The results of an agent about the rows, or about the one at a place. -/
def agentResults (id template : String) (row : Option UInt64) (rows : List Row) :
    Except Failure (List AgentResult) :=
  let scope : AgentScope := if row.isSome then .single else .multi
  let runner := Runner.ofAgents [⟨id, id, none, template, scope⟩]
  match row with
  | none => match (runner.executeBatch Responder.offline id rows).1 with
    | .ok results => .ok results
    | .error why => .error ⟨why.message, []⟩
  | some n => match rows[n.toNat]? with
    | none =>
      .error ⟨"row " ++ toString n.toNat ++ " is out of range (" ++ toString rows.length ++
        " rows)", []⟩
    | some target =>
      match (runner.execute Responder.offline id target
          (some (.number (floatOfNat n.toNat)))).1 with
      | .ok result => .ok [result]
      | .error why => .error ⟨why.message, []⟩

def proposedChanges (id template column : String) (rows : List Row) :
    Except Failure (List Change) :=
  let workshop : Workshop := ⟨[⟨id, id, .column, none, template, false⟩], []⟩
  match (workshop.transformColumn Transformer.offline id rows (some column)).1 with
  | .ok changes => .ok changes
  | .error why => .error ⟨why.message, []⟩

def runCommand (disk : Disk m) (around : Surroundings) (c : Config) (format : String)
    (columns : List ColumnDecl) : Command → ExceptT Failure m Report
  | .query file text page pageSize => do
    let (rows, schema) ← loadTable disk c columns file
    let session := (Session.start rows schema).withPageSize (pageSize.getD c.pageSize)
    let session := (session.runQuery text).setPage (Word.before page)
    return .printed (Output.ofSession format session)
  | .schema file => do
    let (_, schema) ← loadTable disk c columns file
    return .printed (Output.ofSchema format schema)
  | .insights file categories => do
    let (rows, schema) ← loadTable disk c columns file
    let wanted := if categories.isEmpty then InsightCategory.all else categories
    return .printed (Output.ofInsights format around.insightId (Insight.analyze rows schema wanted))
  | .suggest file => do
    let (_, schema) ← loadTable disk c columns file
    return .printed (Output.ofLines schema.suggestions)
  | .agent file id template row => do
    let (rows, _) ← loadTable disk c columns file
    let results ← ExceptT.mk (pure (agentResults id template row rows))
    return .printed (Output.ofResults format around.time results)
  | .transform file id column template output => do
    let (rows, schema) ← loadTable disk c columns file
    let changes ← ExceptT.mk (pure (proposedChanges id template column rows))
    match output with
    | none => return .printed (Output.ofChanges format changes)
    | some output =>
      let written ← orThrow (exportFormat format)
      let path ← (destination disk around output written : m String)
      writeFile disk path (Export.text written schema.columns (applyChanges rows changes))
      return .noted ("Applied " ++ toString changes.length ++ " changes to " ++ path)
  | .exportRows file text output => do
    -- The format is checked before the dataset is looked for.
    let written ← orThrow (exportFormat format)
    let (rows, schema) ← loadTable disk c columns file
    let outcome := Outcome.ofQuery rows schema text
    let body := Export.text written schema.columns (rowsOf outcome.entries)
    match output with
    | none => return .printed (body ++ "\n")
    | some output =>
      let path ← (destination disk around output written : m String)
      writeFile disk path body
      return .noted ("Exported " ++ toString outcome.matchedCount ++ " rows to " ++ path)
  | .writeConfig output => do
    match output with
    | none => return .printed Config.sample
    | some path =>
      writeFile disk path Config.sample
      return .printed ("Config written to " ++ path ++ "\n")

def runInvocation (disk : Disk m) (around : Surroundings) (i : Invocation) :
    ExceptT Failure m Report := do
  let c ← config disk around i.config
  openLog disk c
  runCommand disk around c (Text.lowered (i.format.getD c.format)) i.columns i.command

def run (disk : Disk m) (around : Surroundings) (words : List String) : m Report := do
  match Request.ofWords words with
  | .misuse => return .misused
  | .show_ text => return .printed text
  | .run invocation =>
    match ← (runInvocation disk around invocation).run with
    | .ok report => return report
    | .error failure => return failure.report

end TableQuery.CommandLine
