import TableQuery.Json.Basic
import TableQuery.Numeral

/-! # Reading JSON

A document is one value with blanks around it. Values may nest 127 deep. Strings hold no
raw control character, and an escaped surrogate must come as a pair. Whole numbers
between `-2^63` and `2^64` are kept as they are; all other numbers become doubles: of
the digits as many as fit into 64 bits are kept, and the rest of the number's size is
one scaling by a power of ten, so the last bit may differ from the nearest double. A
number beyond the doubles is refused.
-/

namespace TableQuery.Json

/-- The blanks that may stand between the parts of a document. -/
def isGap (c : Char) : Bool := c == ' ' || c == '\n' || c == '\t' || c == '\r'

def skipGap (s : List Char) : List Char := s.dropWhile isGap

/-- Values nest less deep than this. -/
def depthLimit : Nat := 128

def significandLimit : Nat := UInt64.size

/-! ## Numbers -/

/-- Take in digits while the significand fits into 64 bits: the significand, how many
    digits were taken, and what follows. -/
def takeDigits (significand taken : Nat) : List Char → Nat × Nat × List Char
  | [] => (significand, taken, [])
  | c :: rest =>
    if c.isDigit then
      let next := 10 * significand + Numeral.digitValue c
      if next < significandLimit then takeDigits next (taken + 1) rest
      else (significand, taken, c :: rest)
    else (significand, taken, c :: rest)

def powerOfTen (n : Nat) : Float := Decimal.toFloat false ⟨1, n⟩

/-- Divide by `10 ^ 308` until the exponent is within 308 of zero, `fuel` times at most. -/
def scaleDown : Nat → Float → Nat → Float
  | 0, x, _ => x
  | fuel + 1, x, n =>
    if n ≤ 308 then x / powerOfTen n
    else if x == 0 then x
    else scaleDown fuel (x / powerOfTen 308) (n - 308)

def scaled? (negative : Bool) (significand : Nat) (exponent : Int) : Option Float :=
  let x := floatOfNat significand
  let magnitude : Option Float :=
    if 0 ≤ exponent then
      if exponent ≤ 308 then
        let y := x * powerOfTen exponent.toNat
        if y.isInf then none else some y
      else if x == 0 then some x
      else none
    else some (scaleDown 6 x (-exponent).toNat)
  magnitude.map fun y => if negative then -y else y

/-- The exponents beyond this are not told apart. -/
def exponentLimit : Nat := 0x80000000

/-- Keep a sum of exponents within 32 bits. -/
def clampExponent (e : Int) : Int := max Int32.minValue.toInt (min Int32.maxValue.toInt e)

def readExponent? (negative : Bool) (significand : Nat) (start : Int) (s : List Char) :
    Option (Json × List Char) :=
  let (minus, rest) := Numeral.splitSign s
  let (ds, rest) := Numeral.splitDigits rest
  if ds.isEmpty then none
  else
    let e := Numeral.natOfDigits ds
    -- Such an exponent makes zero of everything, or a number beyond the doubles.
    if exponentLimit ≤ e then
      if significand ≠ 0 && !minus then none
      else some (.float (Decimal.floatOfBits negative 0), rest)
    else
      let e := clampExponent (if minus then start - e else start + e)
      (scaled? negative significand e).map fun x => (.float x, rest)

def readScale? (negative : Bool) (significand : Nat) (exponent : Int) :
    List Char → Option (Json × List Char)
  | c :: rest =>
    if c = 'e' ∨ c = 'E' then readExponent? negative significand exponent rest
    else (scaled? negative significand exponent).map fun x => (.float x, c :: rest)
  | [] => (scaled? negative significand exponent).map fun x => (.float x, [])

def readFraction? (negative : Bool) (significand : Nat) (exponent : Int) (s : List Char) :
    Option (Json × List Char) :=
  match s with
  | c :: _ =>
    if c.isDigit then
      let (significand, taken, rest) := takeDigits significand 0 s
      readScale? negative significand (exponent - taken) (rest.dropWhile Char.isDigit)
    else none
  | [] => none

def readLong? (negative : Bool) (significand : Nat) (dropped : Nat) :
    List Char → Option (Json × List Char)
  | '.' :: rest => readFraction? negative significand dropped rest
  | s => readScale? negative significand dropped s

/-- The greatest magnitude of a negative whole number that is kept as it is. -/
def magnitudeLimit : Nat := 0x8000000000000000

def readTail? (negative : Bool) (significand : Nat) : List Char → Option (Json × List Char)
  | '.' :: rest => readFraction? negative significand 0 rest
  | s =>
    match s with
    | 'e' :: rest => readExponent? negative significand 0 rest
    | 'E' :: rest => readExponent? negative significand 0 rest
    | _ =>
      if negative then
        -- Zero keeps its sign only as a double.
        if significand = 0 ∨ magnitudeLimit < significand then
          some (.float (-(floatOfNat significand)), s)
        else some (.int (-(significand : Int)), s)
      else some (.int significand, s)

/-- A number without its sign. A zero in front stands alone. -/
def readUnsigned? (negative : Bool) (s : List Char) : Option (Json × List Char) :=
  match s with
  | '0' :: rest =>
    match rest with
    | c :: _ => if c.isDigit then none else readTail? negative 0 rest
    | [] => readTail? negative 0 []
  | c :: _ =>
    if c.isDigit then
      let (significand, _, rest) := takeDigits 0 0 s
      let more := rest.takeWhile Char.isDigit
      if more.isEmpty then readTail? negative significand rest
      else readLong? negative significand more.length (rest.dropWhile Char.isDigit)
    else none
  | [] => none

/-! ## Strings -/

def hexValue? (c : Char) : Option Nat :=
  let v := Numeral.digitValue c
  if v < 16 then some v else none

def readUnit? : List Char → Option (Nat × List Char)
  | a :: b :: c :: d :: rest =>
    match hexValue? a, hexValue? b, hexValue? c, hexValue? d with
    | some a, some b, some c, some d => some (((a * 16 + b) * 16 + c) * 16 + d, rest)
    | _, _, _, _ => none
  | _ => none

/-- The character after `\u`, which may take a second escape. -/
def readEscapedUnit? (s : List Char) : Option (Char × List Char) :=
  match readUnit? s with
  | none => none
  | some (high, rest) =>
    -- The second half of a pair cannot stand alone, and the first half needs it.
    if 0xDC00 ≤ high ∧ high ≤ 0xDFFF then none
    else if 0xD800 ≤ high ∧ high ≤ 0xDBFF then
      match rest with
      | '\\' :: 'u' :: rest =>
        match readUnit? rest with
        | some (low, rest) =>
          if 0xDC00 ≤ low ∧ low ≤ 0xDFFF then
            some (Char.ofNat (0x10000 + (high - 0xD800) * 0x400 + (low - 0xDC00)), rest)
          else none
        | none => none
      | _ => none
    else some (Char.ofNat high, rest)

def simpleEscape? (c : Char) : Option Char :=
  if c = '"' ∨ c = '\\' ∨ c = '/' then some c
  else if c = 'b' then some '\x08'
  else if c = 'f' then some '\x0c'
  else if c = 'n' then some '\n'
  else if c = 'r' then some '\r'
  else if c = 't' then some '\t'
  else none

/-- The rest of a string after its opening quote, `fuel` characters at most. -/
def readString? : Nat → List Char → Option (List Char × List Char)
  | 0, _ => none
  | _ + 1, [] => none
  | fuel + 1, '"' :: rest => let _ := fuel; some ([], rest)
  | fuel + 1, '\\' :: 'u' :: rest =>
    match readEscapedUnit? rest with
    | some (c, rest) => (readString? fuel rest).map fun (s, rest) => (c :: s, rest)
    | none => none
  | fuel + 1, '\\' :: e :: rest =>
    match simpleEscape? e with
    | some c => (readString? fuel rest).map fun (s, rest) => (c :: s, rest)
    | none => none
  | fuel + 1, c :: rest =>
    if c.toNat < 0x20 ∨ c = '\\' then none
    else (readString? fuel rest).map fun (s, rest) => (c :: s, rest)

/-! ## Values -/

def readWord? (word : List Char) (v : Json) (s : List Char) : Option (Json × List Char) :=
  if s.take word.length = word then some (v, s.drop word.length) else none

mutual

def readValue? : Nat → Nat → List Char → Option (Json × List Char)
  | 0, _, _ => none
  | fuel + 1, depth, s =>
    match skipGap s with
    | [] => none
    | c :: rest =>
      if c = 'n' then readWord? ['u', 'l', 'l'] .null rest
      else if c = 't' then readWord? ['r', 'u', 'e'] (.bool true) rest
      else if c = 'f' then readWord? ['a', 'l', 's', 'e'] (.bool false) rest
      else if c = '-' then readUnsigned? true rest
      else if c.isDigit then readUnsigned? false (c :: rest)
      else if c = '"' then
        (readString? (rest.length + 1) rest).map fun (s, rest) => (.str (String.ofList s), rest)
      else if c = '[' then
        if depth ≤ 1 then none
        else match skipGap rest with
          | ']' :: rest => some (.arr [], rest)
          | rest => (readItems? fuel (depth - 1) rest).map fun (vs, rest) => (.arr vs, rest)
      else if c = '\x7b' then
        if depth ≤ 1 then none
        else match skipGap rest with
          | '\x7d' :: rest => some (.obj [], rest)
          | rest => (readMembers? fuel (depth - 1) rest).map fun (ms, rest) => (.obj ms, rest)
      else none

def readItems? : Nat → Nat → List Char → Option (List Json × List Char)
  | 0, _, _ => none
  | fuel + 1, depth, s =>
    match readValue? fuel depth s with
    | none => none
    | some (v, rest) =>
      match skipGap rest with
      | ',' :: rest => (readItems? fuel depth rest).map fun (vs, rest) => (v :: vs, rest)
      | ']' :: rest => some ([v], rest)
      | _ => none

def readMembers? : Nat → Nat → List Char → Option (List (String × Json) × List Char)
  | 0, _, _ => none
  | fuel + 1, depth, s =>
    match skipGap s with
    | '"' :: rest =>
      match readString? (rest.length + 1) rest with
      | none => none
      | some (name, rest) =>
        match skipGap rest with
        | ':' :: rest =>
          match readValue? fuel depth rest with
          | none => none
          | some (v, rest) =>
            match skipGap rest with
            | ',' :: rest =>
              (readMembers? fuel depth rest).map fun (ms, rest) =>
                ((String.ofList name, v) :: ms, rest)
            | '\x7d' :: rest => some ([(String.ofList name, v)], rest)
            | _ => none
        | _ => none
    | _ => none

end

/-- The value of a whole document, with the names of its objects as they are written. -/
def ofChars? (s : List Char) : Option Json :=
  match readValue? (2 * s.length + 2) depthLimit s with
  | some (v, rest) => if (skipGap rest).isEmpty then some v else none
  | none => none

def ofText? (s : String) : Option Json := ofChars? s.toList

end TableQuery.Json
