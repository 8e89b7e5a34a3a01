import TableQuery.Numeral
import TableQuery.Toml.Basic

/-! # Reading values of configurations

Strings in four kinds of quotes, numbers, truth values, moments, arrays and tables in
braces. Arrays and tables in braces nest less than eighty deep.
-/

namespace TableQuery.Toml

abbrev Reader (α : Type) := StateT (List Char) Option α

def fail {α : Type} : Reader α := fun _ => none

def peek? : Reader (Option Char) := do return (← get).head?

def skip (n : Nat) : Reader Unit := modify (·.drop n)

def expect (word : List Char) : Reader Unit := do
  if (← get).take word.length = word then skip word.length else fail

def isInlineBlank (c : Char) : Bool := c == ' ' || c == '\t'

def blanks : Reader Unit := modify (·.dropWhile isInlineBlank)

def isCommentChar (c : Char) : Bool := c == '\t' || (0x20 ≤ c.toNat && c.toNat != 0x7F)

def comment : Reader Unit := modify fun s =>
  match s with
  | '#' :: rest => rest.dropWhile isCommentChar
  | s => s

/-- A text behind the line end in front of it, if one stands there. -/
def afterLineEnd? : List Char → Option (List Char)
  | '\n' :: rest => some rest
  | '\r' :: '\n' :: rest => some rest
  | _ => none

/-- Leave out blanks, comments and line ends, so many lines at most. -/
def gap : Nat → Reader Unit
  | 0 => return
  | fuel + 1 => do
    blanks
    comment
    match afterLineEnd? (← get) with
    | some rest =>
      set rest
      gap fuel
    | none => return

/-! ## Strings -/

def charOf (n : Nat) : Reader Char := if h : n.isValidChar then return Char.ofNatAux n h else fail

def hexDigits : Nat → Nat → Reader Nat
  | 0, value => return value
  | n + 1, value => do
    match ← peek? with
    | some c =>
      if 16 ≤ Numeral.digitValue c then fail
      skip 1
      hexDigits n (16 * value + Numeral.digitValue c)
    | none => fail

def escape : Reader Char := do
  match ← peek? with
  | none => fail
  | some c =>
    skip 1
    if c = 'b' then return '\x08'
    else if c = 't' then return '\t'
    else if c = 'n' then return '\n'
    else if c = 'f' then return '\x0c'
    else if c = 'r' then return '\r'
    else if c = '"' then return '"'
    else if c = '\\' then return '\\'
    else if c = 'u' then charOf (← hexDigits 4 0)
    else if c = 'U' then charOf (← hexDigits 8 0)
    else fail

def isPlainChar (c : Char) : Bool := isCommentChar c

def basicString : Nat → List Char → Reader (List Char)
  | 0, _ => fail
  | fuel + 1, acc => do
    match ← peek? with
    | none => fail
    | some c =>
      skip 1
      if c = '"' then return acc.reverse
      else if c = '\\' then basicString fuel ((← escape) :: acc)
      else if isPlainChar c then basicString fuel (c :: acc)
      else fail

def literalString : Nat → List Char → Reader (List Char)
  | 0, _ => fail
  | fuel + 1, acc => do
    match ← peek? with
    | none => fail
    | some c =>
      skip 1
      if c = '\'' then return acc.reverse
      else if isPlainChar c then literalString fuel (c :: acc)
      else fail

/-- How many of a quote stand in front of a text. -/
def quotesAhead (quote : Char) (s : List Char) : Nat := (s.takeWhile (· == quote)).length

/-- Is the text behind a backslash a line end, after blanks? -/
def continuesLine (s : List Char) : Bool := (afterLineEnd? (s.dropWhile isInlineBlank)).isSome

/-- Leave out blanks and line ends, so many lines at most. -/
def skipLines : Nat → List Char → List Char
  | 0, s => s
  | fuel + 1, s =>
    let s := s.dropWhile isInlineBlank
    match afterLineEnd? s with
    | some rest => skipLines fuel rest
    | none => s

/-- The rest of a string in three quotes. Up to two quotes may stand before the closing
    ones; escapes count in double quotes only. -/
def multilineString (quote : Char) : Nat → List Char → Reader (List Char)
  | 0, _ => fail
  | fuel + 1, acc => do
    let s ← get
    let n := quotesAhead quote s
    if 3 ≤ n then
      -- Of up to five quotes in a row, the last three close the string.
      let extra := min (n - 3) 2
      skip (3 + extra)
      return (List.replicate extra quote ++ acc).reverse
    else match s with
      | [] => fail
      | c :: rest =>
        match afterLineEnd? s with
        | some rest =>
          set rest
          multilineString quote fuel ('\n' :: acc)
        | none =>
          set rest
          if c = '\\' ∧ quote = '"' then
            -- A backslash at the end of a line takes all blanks and line ends behind it.
            if continuesLine rest then
              set (skipLines fuel rest)
              multilineString quote fuel acc
            else multilineString quote fuel ((← escape) :: acc)
          else if isPlainChar c then multilineString quote fuel (c :: acc)
          else fail

def string? : Reader (Option (List Char)) := do
  let s ← get
  let open_ := fun (quote : Char) => do
    skip 3
    set ((afterLineEnd? (← get)).getD (← get))
    return some (← multilineString quote (s.length + 1) [])
  match s with
  | '"' :: '"' :: '"' :: _ => open_ '"'
  | '\'' :: '\'' :: '\'' :: _ => open_ '\''
  | '"' :: _ =>
    skip 1
    return some (← basicString (s.length + 1) [])
  | '\'' :: _ =>
    skip 1
    return some (← literalString (s.length + 1) [])
  | _ => return none

/-! ## Keys -/

def isBareChar (c : Char) : Bool := (c.toNat < 0x80 && c.isAlphanum) || c == '_' || c == '-'

def simpleKey : Reader String := do
  let s ← get
  if s.take 3 = ['"', '"', '"'] ∨ s.take 3 = ['\'', '\'', '\''] then fail
  match ← string? with
  | some k => return String.ofList k
  | none =>
    let k := s.takeWhile isBareChar
    if k.isEmpty then fail
    skip k.length
    return String.ofList k

def keyParts : Nat → Reader (List String)
  | 0 => fail
  | fuel + 1 => do
    blanks
    let k ← simpleKey
    blanks
    if (← peek?) = some '.' then
      skip 1
      return k :: (← keyParts fuel)
    return [k]

/-- Keys have fewer parts than this, and values nest less deep. -/
def depthLimit : Nat := 80

def key : Reader (List String × String) := do
  let parts ← keyParts ((← get).length + 1)
  if depthLimit ≤ parts.length then fail
  match parts.getLast? with
  | some k => return (parts.dropLast, k)
  | none => fail

/-! ## Numbers and moments -/

/-- The digits in front with single underscores between them, without these, and what
    follows; nothing if no digit stands in front or an underscore behind none. -/
def digitsIn? (isDigit : Char → Bool) : List Char → Option (List Char × List Char)
  | [] => none
  | c :: rest =>
    if isDigit c then
      match rest with
      | '_' :: more => (digitsIn? isDigit more).map fun (ds, after) => (c :: ds, after)
      | d :: more =>
        if isDigit d then (digitsIn? isDigit (d :: more)).map fun (ds, after) => (c :: ds, after)
        else some ([c], d :: more)
      | [] => some ([c], [])
    else none

def naturalIn (base : Nat) (ds : List Char) : Nat :=
  ds.foldl (fun n c => base * n + Numeral.digitValue c) 0

/-- A whole number that fits into 64 bits with a sign. -/
def inRange? (n : Int) : Option Toml :=
  if Int64.minValue.toInt ≤ n ∧ n ≤ Int64.maxValue.toInt then some (.int n) else none

def radixInt? : List Char → Option Toml
  | '0' :: letter :: rest =>
    let base := if letter = 'x' then 16 else if letter = 'o' then 8 else if letter = 'b' then 2 else 0
    match digitsIn? (fun c => Numeral.digitValue c < base) rest with
    | some (ds, []) => inRange? (naturalIn base ds)
    | _ => none
  | _ => none

/-- Does an exponent make up the whole text? -/
def isExponent : List Char → Bool
  | c :: rest =>
    (c == 'e' || c == 'E') &&
      match digitsIn? Char.isDigit (Numeral.splitSign rest).2 with
      | some (_, []) => true
      | _ => false
  | [] => false

def decimal? (s : List Char) : Option Toml :=
  let (negative, rest) := Numeral.splitSign s
  if rest = ['i', 'n', 'f'] ∨ rest = ['n', 'a', 'n'] then some .float
  else match digitsIn? Char.isDigit rest with
    | none => none
    | some (ds, after) =>
      -- A zero in front stands alone.
      if ds.head? = some '0' ∧ rest.take 2 ≠ ['0'] ∧ (ds.length ≠ 1) then none
      else match after with
        | [] =>
          let n : Int := Numeral.natOfDigits ds
          inRange? (if negative then -n else n)
        | '.' :: more =>
          match digitsIn? Char.isDigit more with
          | some (_, []) => some .float
          | some (_, e) => if isExponent e then some .float else none
          | none => none
        | e => if isExponent e then some .float else none

def fixedDigits? (n : Nat) (s : List Char) : Option (Nat × List Char) :=
  let ds := s.take n
  if ds.length = n ∧ ds.all Char.isDigit then some (Numeral.natOfDigits ds, s.drop n) else none

def daysIn (year month : Nat) : Nat :=
  if month = 2 then
    if year % 4 = 0 ∧ (year % 100 ≠ 0 ∨ year % 400 = 0) then 29 else 28
  else if month = 4 ∨ month = 6 ∨ month = 9 ∨ month = 11 then 30
  else 31

/-- What follows a date in front. -/
def afterDate? (s : List Char) : Option (List Char) := do
  let (year, s) ← fixedDigits? 4 s
  let ('-' :: s) := s | none
  let (month, s) ← fixedDigits? 2 s
  let ('-' :: s) := s | none
  let (day, s) ← fixedDigits? 2 s
  if 1 ≤ month ∧ month ≤ 12 ∧ 1 ≤ day ∧ day ≤ daysIn year month then some s else none

def afterTime? (s : List Char) : Option (List Char) := do
  let (hour, s) ← fixedDigits? 2 s
  let (':' :: s) := s | none
  let (minute, s) ← fixedDigits? 2 s
  let (':' :: s) := s | none
  let (second, s) ← fixedDigits? 2 s
  if hour ≤ 23 ∧ minute ≤ 59 ∧ second ≤ 60 then
    match s with
    | '.' :: more =>
      if (more.takeWhile Char.isDigit).isEmpty then none else some (more.dropWhile Char.isDigit)
    | s => some s
  else none

/-- Is the text nothing, or the distance to universal time? -/
def isOffset : List Char → Bool
  | [] => true
  | ['Z'] => true
  | ['z'] => true
  | c :: rest =>
    (c == '+' || c == '-') &&
      match fixedDigits? 2 rest with
      | some (hour, ':' :: more) =>
        match fixedDigits? 2 more with
        | some (minute, []) => hour ≤ 23 && minute ≤ 59
        | _ => false
      | _ => false

/-- Is the text a time of day, with the distance to universal time if that may stand? -/
def isTime (offset : Bool) (s : List Char) : Bool :=
  match afterTime? s with
  | some rest => rest.isEmpty || (offset && isOffset rest)
  | none => false

def moment? (s : List Char) : Option Toml :=
  match afterDate? s with
  | some [] => some .moment
  | some (c :: rest) =>
    if (c = 'T' ∨ c = 't' ∨ c = ' ') ∧ isTime true rest then some .moment else none
  | none => if isTime false s then some .moment else none

/-- The value that a word without quotes stands for. -/
def wordValue? (s : List Char) : Option Toml :=
  if s = ['t', 'r', 'u', 'e'] then some (.bool true)
  else if s = ['f', 'a', 'l', 's', 'e'] then some (.bool false)
  else moment? s <|> radixInt? s <|> decimal? s

def isWordChar (c : Char) : Bool := isBareChar c || c == '+' || c == '.' || c == ':'

/-- The word without quotes in front. A blank belongs to it between a date and a time. -/
def takeWord (s : List Char) : List Char :=
  let w := s.takeWhile isWordChar
  match afterDate? w, s.drop w.length with
  | some [], ' ' :: rest =>
    let t := rest.takeWhile isWordChar
    match fixedDigits? 2 t with
    | some (_, ':' :: _) => w ++ ' ' :: t
    | _ => w
  | _, _ => w

/-! ## Values -/

mutual

def value : Nat → Nat → Reader Toml
  | 0, _ => fail
  | fuel + 1, depth => do
    match ← string? with
    | some s => return .str (String.ofList s)
    | none =>
      match ← peek? with
      | some '[' =>
        if depthLimit ≤ depth + 1 then fail
        skip 1
        return .arr (← arrayItems fuel (depth + 1))
      | some '\x7b' =>
        if depthLimit ≤ depth + 1 then fail
        skip 1
        blanks
        if (← peek?) = some '\x7d' then
          skip 1
          return .table .inline []
        else return .table .inline (← inlineEntries fuel (depth + 1) [])
      | _ =>
        let w := takeWord (← get)
        match wordValue? w with
        | some v =>
          skip w.length
          return v
        | none => fail

/-- The items of an array up to its closing bracket, with a comma behind each but the last
    or all of them. -/
def arrayItems : Nat → Nat → Reader (List Toml)
  | 0, _ => fail
  | fuel + 1, depth => do
    gap (← get).length
    if (← peek?) = some ']' then
      skip 1
      return []
    let v ← value fuel depth
    gap (← get).length
    match ← peek? with
    | some ',' =>
      skip 1
      return v :: (← arrayItems fuel depth)
    | some ']' =>
      skip 1
      return [v]
    | _ => fail

def inlineEntries : Nat → Nat → Entries → Reader Entries
  | 0, _, _ => fail
  | fuel + 1, depth, entries => do
    let (path, k) ← key
    expect ['=']
    blanks
    let v ← value fuel depth
    blanks
    match addDotted? path k v .header entries with
    | none => fail
    | some entries =>
      match ← peek? with
      | some ',' =>
        skip 1
        inlineEntries fuel depth entries
      | some '\x7d' =>
        skip 1
        return entries
      | _ => fail

end

end TableQuery.Toml
