import TableQuery.Error
import TableQuery.Word

/-! # Settings for the log

Which events are logged is said by a filter: directives with commas between them, each of
which is a level, or a target, a span in brackets or both, with a level behind an equals
sign. The log is written for people or as JSON. Here the settings are only checked.
-/

namespace TableQuery.Log

def levelWords : List String := ["off", "error", "warn", "info", "debug", "trace"]

/-- Does the text name a level, by word or number? -/
def isLevel (s : List Char) : Bool :=
  s.isEmpty || levelWords.any (fun w => Text.eqIgnoringAsciiCase s w.toList) ||
    match Word.ofText? (String.ofList s) with
    | some n => n ≤ 5
    | none => false

def canBegin (c : Char) : Bool :=
  c == '-' || c == ':' || c == '_' ||
    (CharSet.union (Text.Property.known "alpha") (Text.Property.known "n")).contains c

inductive Place where
  | start
  | name
  | span
  /-- In the fields of a span, at the beginning of one or behind it. -/
  | field (atStart : Bool)
  | behindFields
  | behindSpan
deriving DecidableEq, Repr

/-- What stands behind the equals sign of a directive, if it has one. -/
def levelPart? : Place → List Char → Except FilterError (Option (List Char))
  | .name, [] => .ok none
  | .behindSpan, [] => .ok none
  | _, [] => .error .malformed
  | .start, c :: rest =>
    if c = '[' then levelPart? .span rest
    else if canBegin c then levelPart? .name rest
    else .error .malformed
  | .name, c :: rest =>
    if c = '=' then .ok (some rest)
    else if c = '[' then levelPart? .span rest
    else levelPart? .name rest
  | .span, c :: rest =>
    if c = ']' then levelPart? .behindSpan rest
    else if c = '\x7b' then levelPart? (.field true) rest
    else levelPart? .span rest
  | .field atStart, c :: rest =>
    if c = '\x7d' then
      if atStart then .error .malformed else levelPart? .behindFields rest
    else levelPart? (.field false) rest
  | .behindFields, c :: rest =>
    if c = ']' then levelPart? .behindSpan rest else .error .malformed
  | .behindSpan, c :: rest => if c = '=' then .ok (some rest) else .error .malformed

/-- Check a directive. Blanks around it count for nothing, except that its level is looked
    for as far from the beginning of the directive with the blanks as it stands from the
    beginning without them. -/
def checkDirective (s : List Char) : Except FilterError Unit :=
  let t := Text.trim s
  match levelPart? .start t with
  | .error why => .error why
  | .ok none => .ok ()
  | .ok (some rest) =>
    if isLevel (s.drop (t.length - rest.length)) then .ok () else .error .unknownLevel

/-- Check the directives of a filter from left to right; empty ones are left out. -/
def checkFilter (s : String) : Except FilterError Unit :=
  ((s.toList.splitOn ',').filter (· ≠ [])).forM checkDirective

inductive Form where
  | pretty
  | json
deriving DecidableEq, Repr

def Form.ofText (s : String) : Except LogError Form :=
  match Text.lowered s with
  | "json" => .ok .json
  | "pretty" => .ok .pretty
  | other => .error (.badFormat other)

/-- Check the settings for the log: the filter first, and then the form. -/
def check (filter form : String) : Except LogError Form :=
  match checkFilter filter with
  | .error why => .error (.badLevel filter why)
  | .ok () => Form.ofText form

end TableQuery.Log
