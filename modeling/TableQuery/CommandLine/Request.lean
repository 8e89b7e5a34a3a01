import TableQuery.CommandLine.Help
import TableQuery.CommandLine.Words

/-! # What a command line asks for

A command line asks for a command with its settings, for a help text or for the version,
or for nothing that the program knows.
-/

namespace TableQuery.CommandLine

inductive Command where
  | query (file text : String) (page : UInt64) (pageSize : Option UInt64)
  | schema (file : String)
  | insights (file : String) (categories : List InsightCategory)
  | suggest (file : String)
  | agent (file id template : String) (row : Option UInt64)
  | transform (file id column template : String) (output : Option String)
  | exportRows (file text : String) (output : Option String)
  | writeConfig (output : Option String)

structure Invocation where
  command : Command
  config : Option String
  format : Option String
  columns : List ColumnDecl

/-- What a command line asks for. -/
inductive Request where
  | run (invocation : Invocation)
  | show_ (text : String)
  | misuse

namespace Request

def value? (r : Reading) (long : String) : Option String := (r.valuesOf long).head?

def word? (r : Reading) (long : String) : Option UInt64 := (value? r long).bind Word.ofText?

def argument (c : CommandForm) (r : Reading) (i : Nat) : String :=
  match r.arguments[i]? with
  | some word => word
  | none => ((c.arguments[i]?).bind (·.default)).getD ""

def command? (c : CommandForm) (r : Reading) : Option Command :=
  let file := argument c r 0
  match c.name with
  | "query" => some (.query file (argument c r 1) ((word? r "page").getD 1) (word? r "page-size"))
  | "schema" => some (.schema file)
  | "insights" =>
    some (.insights file ((r.valuesOf "category").filterMap fun s =>
      (InsightCategory.ofText s).toOption))
  | "suggest" => some (.suggest file)
  | "agent" => some (.agent file (argument c r 1) (argument c r 2) (word? r "row"))
  | "transform" =>
    some (.transform file (argument c r 1) (argument c r 2) ((value? r "template").getD "")
      (value? r "output"))
  | "export" => some (.exportRows file (argument c r 1) (value? r "output"))
  | "config" => some (.writeConfig (value? r "output"))
  | _ => none

/-- The values of a common option: those behind the name of the command if there are any,
    else those before it. -/
def common (before behind : Reading) (long : String) : List String :=
  if (behind.valuesOf long).isEmpty then before.valuesOf long else behind.valuesOf long

def invocation? (c : CommandForm) (before behind : Reading) : Option Invocation :=
  (command? c behind).map fun command =>
    { command
      config := (common before behind "config").head?
      format := (common before behind "format").head?
      columns := (common before behind "column").filterMap fun s =>
        (ColumnDecl.ofText s).toOption }

/-- What the words behind `help` ask for. -/
def ofHelpWords : List String → Request
  | [] => .show_ (Help.ofProgram true)
  | [name] =>
    if name = "help" then .show_ Help.ofHelp
    else match CommandLine.command? name with
      | some c => .show_ (Help.ofCommand c)
      | none => .misuse
  | _ => .misuse

/-- The answer to a command line whose reading stopped, where a form gives the help text. -/
def ofStop (helpText : Bool → String) : Stop → Request
  | .misuse => .misuse
  | .help atLength => .show_ (helpText atLength)
  | .version => .show_ (Help.program ++ " " ++ Help.version ++ "\n")

/-- What the words behind the name of a command ask for. -/
def ofCommandWords (c : CommandForm) (before : Reading) (words : List String) : Request :=
  match readAll (Level.below c) words with
  | .error stop => ofStop (fun _ => Help.ofCommand c) stop
  -- The words before the name of the command are checked last.
  | .ok behind => match before.settle with
    | .error _ => .misuse
    | .ok before => match invocation? c before behind with
      | some invocation => .run invocation
      | none => .misuse

def ofWords (words : List String) : Request :=
  match readWords Level.top {} words with
  | .error stop => ofStop Help.ofProgram stop
  | .ok (_, none) => .misuse
  | .ok (before, some (name, rest)) =>
    if name = "help" then ofHelpWords rest
    else match CommandLine.command? name with
      | some c => ofCommandWords c before rest
      | none => .misuse

end Request

end TableQuery.CommandLine
