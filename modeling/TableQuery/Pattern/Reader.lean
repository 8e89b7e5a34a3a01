import TableQuery.Numeral
import TableQuery.Pattern.Syntax
import TableQuery.Text.Property

/-! # Reading patterns

The text of a pattern: alternatives between bars, items one after another, repetitions
behind an item, groups in parentheses with a name or flags, classes in brackets with set
algebra, and escapes. Look-around and references to groups do not exist, so their texts
are no patterns. In verbose mode blanks and comments between the parts are left aside.
-/

namespace TableQuery.Pattern

/-- What is still to be read, and what the text so far has settled. -/
structure ReadState where
  text : List Char
  /-- Are blanks and comments left aside? -/
  verbose : Bool
  names : List (List Char)

/-- A step of reading: it fails, or gives a result and what is left. -/
abbrev Reader (α : Type) := StateT ReadState Option α

namespace Reader

def fail {α : Type} : Reader α := fun _ => none

def rest : Reader (List Char) := do return (← get).text

def peek? : Reader (Option Char) := do return (← get).text.head?

def peek : Reader Char := do
  match (← get).text with
  | c :: _ => return c
  | [] => fail

def skip (n : Nat) : Reader Unit := modify fun s => { s with text := s.text.drop n }

/-- Leave out blanks and comments: in a comment, up to the end of its line. -/
def skipVerbose (comment : Bool) : List Char → List Char
  | [] => []
  | c :: more =>
    if comment then skipVerbose (c != '\n') more
    else if Text.isBlank c then skipVerbose false more
    else if c = '#' then skipVerbose true more
    else c :: more

/-- In verbose mode, leave out blanks and comments. -/
def gap : Reader Unit := modify fun s =>
  if s.verbose then { s with text := skipVerbose false s.text } else s

def skipGap : Reader Unit := do skip 1; gap

/-- Leave out a character and a gap, behind which something must follow. -/
def skipGapWithin : Reader Unit := do
  skipGap
  if (← rest).isEmpty then fail

def skipWord? (word : List Char) : Reader Bool := do
  let text ← rest
  if text.take word.length = word then
    skip word.length
    return true
  return false

def skipBlanks : Reader Unit := modify fun s => { s with text := s.text.dropWhile Text.isBlank }

end Reader

open Reader

/-! ## Counts -/

/-- The greatest count of a repetition is below this. -/
def countLimit : Nat := UInt32.size

/-- Digits of a count, with gaps between them in verbose mode. -/
def readDigits : Nat → List Char → Reader (List Char)
  | 0, ds => return ds.reverse
  | fuel + 1, ds => do
    match ← peek? with
    | some c =>
      if c.isDigit then
        skipGap
        readDigits fuel (c :: ds)
      else return ds.reverse
    | none => return ds.reverse

def readCount : Reader (Option Nat) := do
  skipBlanks
  let ds ← readDigits (← rest).length []
  skipBlanks
  if ds.isEmpty then return none
  let n := Numeral.natOfDigits ds
  if n < countLimit then return some n else fail

def readBraces : Reader (Nat × Option Nat × Bool) := do
  skipGapWithin
  let least ← readCount
  let c ← peek
  let (least, most) ← (do
    if c = ',' then
      skipGapWithin
      -- A comma with nothing behind it leaves the greatest count open.
      if (← peek) = '\x7d' then
        match least with
        | some n => return (n, none)
        | none => fail
      else
        match least, ← readCount with
        | some n, some m => return (n, some m)
        | _, _ => fail
    else
      match least with
      | some n => return (n, some n)
      | none => fail : Reader (Nat × Option Nat))
  if (← peek?) ≠ some '\x7d' then fail
  skipGap
  let lazily := (← peek?) = some '?'
  if lazily then skip 1
  match most with
  | some m => if m < least then fail else return (least, most, !lazily)
  | none => return (least, most, !lazily)

/-! ## Escapes -/

/-- The characters with a meaning of their own. -/
def isMeta (c : Char) : Bool := "\\.+*?()|[]\x7b\x7d^$#&-~".toList.contains c

/-- May the character be written behind a backslash without need? -/
def isEscapable (c : Char) : Bool :=
  isMeta c || (c.toNat < 0x80 && !c.isAlphanum && c != '<' && c != '>')

def readHexDigits : Nat → Nat → Reader Nat
  | 0, value => return value
  | n + 1, value => do
    let c ← peek
    if 16 ≤ Numeral.digitValue c then fail
    if n = 0 then skipGap else skipGapWithin
    readHexDigits n (16 * value + Numeral.digitValue c)

def readHexBraced : Nat → Option Nat → Reader Nat
  | 0, _ => fail
  | fuel + 1, value => do
    skipGapWithin
    let c ← peek
    if c = '\x7d' then
      skipGap
      match value with
      | some v => return v
      | none => fail
    else if 16 ≤ Numeral.digitValue c then fail
    else readHexBraced fuel (some (16 * value.getD 0 + Numeral.digitValue c))

def charOf (n : Nat) : Reader Char := if h : n.isValidChar then return Char.ofNatAux n h else fail

/-- A character by its number, from the letter that says how long the number is. -/
def readHex : Reader WrittenChar := do
  let letter ← peek
  skipGapWithin
  if (← peek) = '\x7b' then
    let n ← readHexBraced (← rest).length none
    return ⟨← charOf n, false⟩
  else
    let width := if letter = 'x' then 2 else if letter = 'u' then 4 else 8
    let n ← readHexDigits width 0
    return ⟨← charOf n, letter = 'x'⟩

def readPropertyName : Nat → List Char → Reader (List Char)
  | 0, _ => fail
  | fuel + 1, name => do
    skipGapWithin
    let c ← peek
    if c = '\x7d' then
      skip 1
      return name.reverse
    else readPropertyName fuel (c :: name)

/-- Cut at the first place where a text stands: what is before it and what is behind it. -/
def cutAt? (mark : List Char) (before : List Char) : List Char → Option (List Char × List Char)
  | [] => none
  | c :: more =>
    if (c :: more).take mark.length = mark then
      some (before.reverse, (c :: more).drop mark.length)
    else cutAt? mark (c :: before) more

/-- What the text between the braces of a property asks for. -/
def propertyQuery (name : List Char) : Bool × PropertyQuery :=
  match cutAt? ['!', '='] [] name with
  | some (p, v) => (true, .valued p v)
  | none => match cutAt? [':'] [] name with
    | some (p, v) => (false, .valued p v)
    | none => match cutAt? ['='] [] name with
      | some (p, v) => (false, .valued p v)
      | none => (false, .named name)

def readProperty : Reader ClassSyntax := do
  let negated := (← peek) = 'P'
  skipGapWithin
  let c ← peek
  if c = '\x7b' then
    let name ← readPropertyName (← rest).length []
    let (differs, query) := propertyQuery name
    return .property query (negated != differs)
  else if c = '\\' then fail
  else
    skipGap
    return .property (.named [c]) negated

inductive Escape where
  | char (c : WrittenChar)
  | cls (c : ClassSyntax)
  | edge (kind : EdgeSyntax)

def readEdgeName : Nat → List Char → Reader (List Char)
  | 0, name => return name.reverse
  | fuel + 1, name => do
    match ← peek? with
    | some c =>
      if c.isAlpha || c = '-' then
        skipGap
        readEdgeName fuel (c :: name)
      else return name.reverse
    | none => return name.reverse

/-- The kind of a word edge that may be named in braces behind it. -/
def readEdgeKind : Reader EdgeSyntax := do
  let saved ← get
  if (← peek?) ≠ some '\x7b' then return .wordEdge
  skipGapWithin
  let c ← peek
  -- Braces that begin with no letter belong to a repetition of the edge.
  if !(c.isAlpha || c = '-') then
    set saved
    return .wordEdge
  let name ← readEdgeName (← rest).length []
  if (← peek?) ≠ some '\x7d' then fail
  skip 1
  if name = "start".toList then return .wordStart
  else if name = "end".toList then return .wordEnd
  else if name = "start-half".toList then return .notAfterWord
  else if name = "end-half".toList then return .notBeforeWord
  else fail

def controlEscape? (c : Char) : Option Char :=
  if c = 'a' then some '\x07'
  else if c = 'f' then some '\x0c'
  else if c = 't' then some '\t'
  else if c = 'n' then some '\n'
  else if c = 'r' then some '\r'
  else if c = 'v' then some '\x0b'
  else none

def letterClass? (c : Char) : Option ClassSyntax :=
  if c = 'd' then some (.letter .digit false)
  else if c = 'D' then some (.letter .digit true)
  else if c = 's' then some (.letter .blank false)
  else if c = 'S' then some (.letter .blank true)
  else if c = 'w' then some (.letter .word false)
  else if c = 'W' then some (.letter .word true)
  else none

def readEscape : Reader Escape := do
  skip 1
  let c ← peek
  if c = 'x' ∨ c = 'u' ∨ c = 'U' then return .char (← readHex)
  if c = 'p' ∨ c = 'P' then return .cls (← readProperty)
  skip 1
  match letterClass? c, controlEscape? c with
  | some k, _ => return .cls k
  | none, some d => return .char ⟨d, false⟩
  | none, none =>
    if isEscapable c then return .char ⟨c, false⟩
    else if c = 'A' then return .edge .textStart
    else if c = 'z' then return .edge .textEnd
    else if c = 'b' then return .edge (← readEdgeKind)
    else if c = 'B' then return .edge .noWordEdge
    else if c = '<' then return .edge .wordStart
    else if c = '>' then return .edge .wordEnd
    else fail

/-! ## Classes -/

def asciiNames : List String :=
  ["alnum", "alpha", "ascii", "blank", "cntrl", "digit", "graph", "lower", "print", "punct",
    "space", "upper", "word", "xdigit"]

/-- A class of ASCII characters such as `[:digit:]` in front of a text, and what follows. -/
def asciiClass? : List Char → Option (ClassSyntax × List Char)
  | '[' :: ':' :: more =>
    let (negated, more) := match more with
      | '^' :: rest => (true, rest)
      | rest => (false, rest)
    let name := String.ofList (more.takeWhile (· != ':'))
    match more.dropWhile (· != ':') with
    | ':' :: ']' :: rest =>
      if asciiNames.contains name then some (.ascii name negated, rest) else none
    | _ => none
  | _ => none

def readClassItem : Reader ClassSyntax := do
  let c ← peek
  if c = '\\' then
    match ← readEscape with
    | .char w => return .char w
    | .cls k => return k
    | .edge _ => fail
  else
    skip 1
    return .char ⟨c, false⟩

/-- The character behind the next one, behind blanks in verbose mode. -/
def peekSecond? : Reader (Option Char) := do
  let s ← get
  let after := s.text.drop 1
  return (if s.verbose then skipVerbose false after else after).head?

def readClassRange : Reader ClassSyntax := do
  let first ← readClassItem
  gap
  let c ← peek
  let second ← peekSecond?
  -- A hyphen before the end of the class or before another one makes no range.
  if c ≠ '-' ∨ second = some ']' ∨ second = some '-' then return first
  skipGapWithin
  let last ← readClassItem
  match first, last with
  | .char lo, .char hi => if hi.char < lo.char then fail else return .range lo hi
  | _, _ => fail

def classUnion : List ClassSyntax → ClassSyntax
  | [c] => c
  | cs => .union cs

/-- The part of a class that is complete, with what stands before it. -/
def classJoin (pending : Option (ClassOp × ClassSyntax)) (items : List ClassSyntax) : ClassSyntax :=
  match pending with
  | none => classUnion items.reverse
  | some (op, lhs) => .op op lhs (classUnion items.reverse)

def readHyphens : Nat → List ClassSyntax → Reader (List ClassSyntax)
  | 0, items => return items
  | fuel + 1, items => do
    if (← peek) = '-' then
      skipGapWithin
      readHyphens fuel (.char ⟨'-', false⟩ :: items)
    else return items

/-- The beginning of a class from its bracket on: is it negated, and its first items. -/
def readClassOpen : Reader (Bool × List ClassSyntax) := do
  skipGapWithin
  let negated := (← peek) = '^'
  if negated then skipGapWithin
  let items ← readHyphens (← rest).length []
  -- A closing bracket in front does not close the class.
  if items.isEmpty && (← peek) = ']' then
    skipGapWithin
    return (negated, [.char ⟨']', false⟩])
  return (negated, items)

def classOp? : List Char → Option ClassOp
  | '&' :: '&' :: _ => some .inter
  | '-' :: '-' :: _ => some .diff
  | '~' :: '~' :: _ => some .symDiff
  | _ => none

/-- The rest of a class whose items so far are given, latest first. -/
def readClassBody : Nat → Option (ClassOp × ClassSyntax) → List ClassSyntax → Reader ClassSyntax
  | 0, _, _ => fail
  | fuel + 1, pending, items => do
    gap
    let text ← rest
    let c ← peek
    if c = '[' then
      match asciiClass? text with
      | some (item, after) =>
        modify fun s => { s with text := after }
        readClassBody fuel pending (item :: items)
      | none =>
        -- A class within the class is one of its items.
        let (negated, first) ← readClassOpen
        let body ← readClassBody fuel none first
        readClassBody fuel pending (.bracket negated body :: items)
    else if c = ']' then
      skip 1
      return classJoin pending items
    else match classOp? text with
      | some op =>
        -- Operators have no ranks: everything so far is the left side.
        skip 2
        readClassBody fuel (some (op, classJoin pending items)) []
      | none =>
        let item ← readClassRange
        readClassBody fuel pending (item :: items)

def readClass : Reader ClassSyntax := do
  let (negated, first) ← readClassOpen
  let body ← readClassBody ((← rest).length + 1) none first
  return .bracket negated body

/-! ## Groups and items -/

def isFlag (c : Char) : Bool := "imsUuRx".toList.contains c

def readFlags : Nat → Bool → Bool → FlagChange → Reader FlagChange
  | 0, _, _, _ => fail
  | fuel + 1, negated, dangling, change => do
    let c ← peek
    if c = ':' ∨ c = ')' then
      if dangling then fail else return change.reverse
    else if c = '-' then
      if negated then fail
      skip 1
      readFlags fuel true true change
    else if isFlag c && !(change.any (·.1 = c)) then
      skip 1
      readFlags fuel negated false ((c, !negated) :: change)
    else fail

/-- May the character stand in the name of a group? -/
def isNameChar (first : Bool) (c : Char) : Bool :=
  let letter := (Text.Property.flag? "alphabetic").any (·.contains c)
  if first then c = '_' || letter
  else c = '_' || c = '.' || c = '[' || c = ']' || letter ||
    (Text.Property.category? "n").any (·.contains c)

/-- The name of a group up to its closing bracket; no name is given twice. -/
def readName : Reader Unit := do
  let text ← rest
  let name := text.takeWhile (· != '>')
  match name, text.drop name.length with
  | first :: more, '>' :: after =>
    if !isNameChar true first || !more.all (isNameChar false) then fail
    if (← get).names.contains name then fail
    modify fun s => { s with text := after, names := name :: s.names }
  | _, _ => fail

def flagValue? (change : FlagChange) (flag : Char) : Option Bool := change.lookup flag

/-- The item behind which a repetition may stand. -/
def repeatable : Syntax → Bool
  | .empty => false
  | .flags _ => false
  | _ => true

/-- Repeat the latest item. -/
def repeatLast (least : Nat) (most : Option Nat) (greedy : Bool) :
    List Syntax → Reader (List Syntax)
  | [] => fail
  | p :: items => if repeatable p then return .rep least most greedy p :: items else fail

def joinItems : List Syntax → Syntax
  | [] => .empty
  | [p] => p
  | ps => .concat ps

/-- Is a repetition shortest first? A question mark behind it says so. -/
def readLazy : Reader Bool := do
  if (← peek?) = some '?' then
    skip 1
    return true
  return false

/-- What a parenthesis opens: a change of flags from here on, or a group with flags of
    its own. -/
inductive Opening where
  | change (flags : FlagChange)
  | group (flags : FlagChange) (captures : Bool)

def readOpening : Reader Opening := do
  skip 1
  gap
  let text ← rest
  -- What looks around is no pattern.
  if text.take 2 = "?=".toList ∨ text.take 2 = "?!".toList ∨ text.take 3 = "?<=".toList ∨
      text.take 3 = "?<!".toList then fail
  if ← skipWord? "?P<".toList then
    readName
    return .group [] true
  if ← skipWord? "?<".toList then
    readName
    return .group [] true
  if ← skipWord? ['?'] then
    let change ← readFlags ((← rest).length + 1) false false []
    let close ← peek
    skip 1
    if close = ')' then
      if change.isEmpty then fail else return .change change
    return .group change false
  return .group [] true

mutual

def readItems : Nat → List Syntax → Reader Syntax
  | 0, _ => fail
  | fuel + 1, items => do
    gap
    match ← peek? with
    | none => return joinItems items.reverse
    | some c =>
      if c = '|' ∨ c = ')' then return joinItems items.reverse
      else if c = '(' then
        match ← readOpening with
        | .change flags =>
          modify fun s => { s with verbose := (flagValue? flags 'x').getD s.verbose }
          readItems fuel (.flags flags :: items)
        | .group flags captures =>
          -- Verbose mode that is set within a group ends with it.
          let outer := (← get).verbose
          modify fun s => { s with verbose := (flagValue? flags 'x').getD s.verbose }
          let body ← readBranches fuel []
          if (← peek?) ≠ some ')' then fail
          skip 1
          modify fun s => { s with verbose := outer }
          readItems fuel (.group flags captures body :: items)
      else if c = '[' then
        let k ← readClass
        readItems fuel (.cls k :: items)
      else if c = '?' then
        skip 1
        let lazily ← readLazy
        readItems fuel (← repeatLast 0 (some 1) (!lazily) items)
      else if c = '*' then
        skip 1
        let lazily ← readLazy
        readItems fuel (← repeatLast 0 none (!lazily) items)
      else if c = '+' then
        skip 1
        let lazily ← readLazy
        readItems fuel (← repeatLast 1 none (!lazily) items)
      else if c = '\x7b' then
        let (least, most, greedy) ← readBraces
        readItems fuel (← repeatLast least most greedy items)
      else if c = '\\' then
        match ← readEscape with
        | .char w => readItems fuel (.char w :: items)
        | .cls k => readItems fuel (.cls k :: items)
        | .edge e => readItems fuel (.edge e :: items)
      else
        skip 1
        let item : Syntax :=
          if c = '.' then .dot
          else if c = '^' then .edge .caret
          else if c = '$' then .edge .dollar
          else .char ⟨c, false⟩
        readItems fuel (item :: items)

def readBranches : Nat → List Syntax → Reader Syntax
  | 0, _ => fail
  | fuel + 1, branches => do
    let branch ← readItems fuel []
    if (← peek?) = some '|' then
      skip 1
      readBranches fuel (branch :: branches)
    else if branches.isEmpty then return branch
    else return .alt (branch :: branches).reverse

end

/-- Patterns nest at most this deep. -/
def nestLimit : Nat := 250

def Syntax.ofChars? (s : List Char) : Option Syntax :=
  match (readBranches (2 * s.length + 2) []).run ⟨s, false, []⟩ with
  | some (p, final) =>
    if final.text.isEmpty && p.depth ≤ nestLimit then some p else none
  | none => none

end TableQuery.Pattern
