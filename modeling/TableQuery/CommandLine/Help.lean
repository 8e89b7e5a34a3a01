import TableQuery.CommandLine.Form

/-! # Help texts

What is printed when a command line asks for help: the usage, the commands, the arguments
and the options. Texts about options stand beside them, or, at length, below them.
-/

namespace TableQuery.CommandLine.Help

def program : String := "tabula"

def version : String := "0.1.0"

def about : String := "Query JSON and CSV tables in plain language"

def aboutAtLength : String :=
  "Tabula turns free-text questions such as \"top 5 orders from India sort by total desc\"\n" ++
    "into filter, sort and limit plans over a JSON or CSV file."

def padded (width : Nat) (s : String) : String :=
  s ++ String.ofList (List.replicate (width - s.length) ' ')

/-- An entry of a help text: what stands before the name, the name, and the text. -/
structure Entry where
  indent : String
  name : String
  about : String

/-- Entries with their texts beside them. -/
def beside (entries : List Entry) : String :=
  let width := (entries.map (·.name.length)).foldl max 0
  String.join <| entries.map fun e =>
    "  " ++ e.indent ++ padded width e.name ++ "  " ++ e.about ++ "\n"

/-- Entries with their texts below them. -/
def below (entries : List Entry) : String :=
  "\n".intercalate <| entries.map fun e =>
    "  " ++ e.indent ++ e.name ++ "\n          " ++ e.about ++ "\n"

def withDefault (about : String) : Option String → String
  | none => about
  | some value => about ++ " [default: " ++ value ++ "]"

def argumentName (a : ArgumentForm) : String :=
  if a.default.isSome then "[" ++ a.name ++ "]" else "<" ++ a.name ++ ">"

def argumentEntry (a : ArgumentForm) : Entry := ⟨"", argumentName a, withDefault a.about a.default⟩

def shortName : Option Char → String
  | none => "    "
  | some c => "-" ++ String.singleton c ++ ", "

def optionEntry (o : OptionForm) : Entry :=
  ⟨shortName o.short, "--" ++ o.long ++ " <" ++ o.value ++ ">", withDefault o.about o.default⟩

def helpEntry (about : String) : Entry := ⟨"-h, ", "--help", about⟩

def versionEntry : Entry := ⟨"-V, ", "--version", "Print version"⟩

def aboutHelp : String := "Print this message or the help of the given subcommand(s)"

def commandEntries : List Entry :=
  commands.map (fun c => ⟨"", c.name, c.about⟩) ++ [⟨"", "help", aboutHelp⟩]

def ofProgram (atLength : Bool) : String :=
  let options := commonOptions.map optionEntry
  (if atLength then aboutAtLength else about) ++
    "\n\nUsage: " ++ program ++ " [OPTIONS] <COMMAND>\n\nCommands:\n" ++ beside commandEntries ++
    "\nOptions:\n" ++
    if atLength then
      below (options ++ [helpEntry "Print help (see a summary with '-h')", versionEntry])
    else beside (options ++ [helpEntry "Print help (see more with '--help')", versionEntry])

/-- What options at the same place of their lists are ordered by. -/
def orderName (o : OptionForm) : String :=
  match o.short with
  | some c => String.singleton c ++ "0"
  | none => o.long

/-- The options of a command with the common ones: the first of both lists, then the second
    ones, and so on, each time in the order of their names. -/
def interleave : List OptionForm → List OptionForm → List OptionForm
  | [], common => common
  | own, [] => own
  | a :: own, b :: common =>
    if orderName b < orderName a then b :: a :: interleave own common
    else a :: b :: interleave own common

def ofCommand (c : CommandForm) : String :=
  let usage := String.join (c.arguments.map fun a => " " ++ argumentName a)
  c.about ++ "\n\nUsage: " ++ program ++ " " ++ c.name ++ " [OPTIONS]" ++ usage ++ "\n" ++
    (if c.arguments.isEmpty then ""
      else "\nArguments:\n" ++ beside (c.arguments.map argumentEntry)) ++
    "\nOptions:\n" ++
    beside ((interleave c.options commonOptions).map optionEntry ++ [helpEntry "Print help"])

/-- The help text of the command that prints help texts. It takes no options. -/
def ofHelp : String :=
  aboutHelp ++ "\n\nUsage: " ++ program ++ " help [COMMAND]...\n\nArguments:\n" ++
    beside [⟨"", "[COMMAND]...", "Print help for the subcommand(s)"⟩]

end TableQuery.CommandLine.Help
