import TableQuery.Assoc
import TableQuery.CommandLine.Form

/-! # Reading the words of a command line

Words are read from left to right: the name of a command, its arguments, and options in
any place. An option's value is the next word, or stands behind an equals sign, or
directly behind a short name. Behind the word `--` all words are arguments. A word is
checked when the next one that is no value has been looked at.
-/

namespace TableQuery.CommandLine

inductive Stop where
  | misuse
  | help (atLength : Bool)
  | version
deriving DecidableEq, Repr

/-- What a word is read for. -/
inductive Slot where
  | argument (form : ArgumentForm)
  | option (form : OptionForm)

structure Reading where
  arguments : List String := []
  options : List (String × List String) := []
  /-- What was read last and has not been checked, with its word if that has come. -/
  pending : Option (Slot × Option String) := none
  /-- Has the word come behind which all words are arguments? -/
  behindMark : Bool := false

/-- What is read: the arguments and options, the commands that can follow, and whether the
    version can be asked for. -/
structure Level where
  arguments : List ArgumentForm
  options : List OptionForm
  names : List String
  hasVersion : Bool

namespace Level

def top : Level := ⟨[], commonOptions, commands.map (·.name) ++ ["help"], true⟩

def below (c : CommandForm) : Level := ⟨c.arguments, c.options ++ commonOptions, [], false⟩

end Level

def Reading.valuesOf (r : Reading) (long : String) : List String :=
  (Assoc.get? long r.options).getD []

def Reading.take (r : Reading) (slot : Slot) (word : String) : Except Stop Reading :=
  match slot with
  | .argument form =>
    if form.accepts word then .ok { r with arguments := r.arguments ++ [word] }
    else .error .misuse
  | .option form =>
    let values := r.valuesOf form.long
    if !form.isRepeatable && !values.isEmpty then .error .misuse
    else if form.accepts word then
      .ok { r with options := Assoc.insert form.long (values ++ [word]) r.options }
    else .error .misuse

def Reading.settle (r : Reading) : Except Stop Reading :=
  match r.pending with
  | none => .ok r
  | some (_, none) => .error .misuse
  | some (slot, some word) => { r with pending := none }.take slot word

def Reading.argumentCount (r : Reading) : Nat :=
  match r.pending with
  | some (.argument _, _) => r.arguments.length + 1
  | _ => r.arguments.length

/-- An option with the value that stands at its name, if one does. -/
def Reading.begin (r : Reading) (form : OptionForm) (value : Option String) :
    Except Stop Reading :=
  match r.settle with
  | .error stop => .error stop
  | .ok r => match value with
    | some word => r.take (.option form) word
    | none => .ok { r with pending := some (.option form, none) }

def Reading.stop (r : Reading) (why : Stop) : Except Stop Reading :=
  match r.settle with
  | .error stop => .error stop
  | .ok _ => .error why

def readLong (level : Level) (r : Reading) (name : String) (value : Option String) :
    Except Stop Reading :=
  match level.options.find? (·.long = name) with
  | some form => r.begin form value
  | none =>
    if value.isNone ∧ name = "help" then r.stop (.help true)
    else if value.isNone ∧ name = "version" ∧ level.hasVersion then r.stop .version
    else .error .misuse

/-- The value directly behind a short name, if there is one. -/
def attached : List Char → Option String
  | [] => none
  | '=' :: rest => some (String.ofList rest)
  | cs => some (String.ofList cs)

def readShort (level : Level) (r : Reading) (name : Char) (rest : List Char) :
    Except Stop Reading :=
  match level.options.find? (·.short = some name) with
  | some form => r.begin form (attached rest)
  | none =>
    if name = 'h' then r.stop (.help false)
    else if name = 'V' ∧ level.hasVersion then r.stop .version
    else .error .misuse

/-- A word that is no option: the value of the last one, or an argument. -/
def readPlain (level : Level) (r : Reading) (word : String) : Except Stop Reading :=
  match r.pending, r.behindMark with
  -- An option waits for its value.
  | some (slot, none), false => .ok { r with pending := some (slot, some word) }
  | _, _ =>
    -- There must be a place for the word before what came earlier is checked.
    match level.arguments[r.argumentCount]? with
    | none => .error .misuse
    | some form => match r.settle with
      | .error stop => .error stop
      | .ok r => .ok { r with pending := some (.argument form, some word) }

/-- A word that is neither the name of a command nor behind the mark. -/
def readWord (level : Level) (r : Reading) (word : String) : Except Stop Reading :=
  match word.toList with
  | ['-', '-'] => .ok { r with behindMark := true }
  | '-' :: '-' :: name =>
    readLong level r (String.ofList (name.takeWhile (· != '='))) <|
      match name.dropWhile (· != '=') with
      | [] => none
      | _ :: value => some (String.ofList value)
  | '-' :: name :: rest => readShort level r name rest
  | _ => readPlain level r word

/-- Is the last option still without its value? -/
def Reading.awaitsValue (r : Reading) : Bool :=
  match r.pending with
  | some (_, none) => true
  | _ => false

/-- Read words up to the name of a command, which is given with the words behind it. -/
def readWords (level : Level) (r : Reading) :
    List String → Except Stop (Reading × Option (String × List String))
  | [] => .ok (r, none)
  | word :: rest =>
    if r.behindMark then
      match readPlain level r word with
      | .error stop => .error stop
      | .ok r => readWords level r rest
    else if !r.awaitsValue && level.names.contains word then .ok (r, some (word, rest))
    else match readWord level r word with
      | .error stop => .error stop
      | .ok r => readWords level r rest

/-- Read all words at a level, which must give the arguments without a default. -/
def readAll (level : Level) (words : List String) : Except Stop Reading :=
  match readWords level {} words with
  | .error stop => .error stop
  | .ok (r, _) => match r.settle with
    | .error stop => .error stop
    | .ok r =>
      if (level.arguments.filter (·.default.isNone)).length ≤ r.arguments.length then .ok r
      else .error .misuse

end TableQuery.CommandLine
