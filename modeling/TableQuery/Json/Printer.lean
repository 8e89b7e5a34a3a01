import TableQuery.Decimal.Layout
import TableQuery.Json.Basic

/-! # Writing JSON

Values are written without blanks, or one item a line with two blanks for each level.
In strings the quote, the backslash and the control characters are escaped and nothing
else. Doubles are written with the fewest digits that read back and always show a
fraction or an exponent; a double that is not finite is written `null`.
-/

namespace TableQuery.Json

/-- Doubles are written out from `1e-5` up to `1e16`, with a fraction. -/
def floatLayout : Layout where
  plainFrom := -5
  plainBelow := 16
  fraction := true
  tie := .toEven
  signedZero := true
  nan := "null"
  infinity := "null"
  negInfinity := "null"

def hexDigit (n : Nat) : Char :=
  if n < 10 then Char.ofNat (48 + n) else Char.ofNat (87 + n)

/-- A character as it stands in a string. -/
def escapeChar (c : Char) : List Char :=
  if c = '"' then ['\\', '"']
  else if c = '\\' then ['\\', '\\']
  else if c = '\n' then ['\\', 'n']
  else if c = '\r' then ['\\', 'r']
  else if c = '\t' then ['\\', 't']
  else if c = '\x08' then ['\\', 'b']
  else if c = '\x0c' then ['\\', 'f']
  else if c.toNat < 0x20 then
    ['\\', 'u', '0', '0', hexDigit (c.toNat / 16), hexDigit (c.toNat % 16)]
  else [c]

def quoted (s : List Char) : List Char := '"' :: (s.flatMap escapeChar ++ ['"'])

def intChars (n : Int) : List Char :=
  if n < 0 then '-' :: Layout.digitsOf n.natAbs else Layout.digitsOf n.natAbs

mutual

/-- The value without blanks. -/
def compactChars : Json → List Char
  | .null => ['n', 'u', 'l', 'l']
  | .bool true => ['t', 'r', 'u', 'e']
  | .bool false => ['f', 'a', 'l', 's', 'e']
  | .int n => intChars n
  | .float x => floatLayout.render x
  | .str s => quoted s.toList
  | .arr items => '[' :: (compactItems items ++ [']'])
  | .obj members => '\x7b' :: (compactMembers members ++ ['\x7d'])

def compactItems : List Json → List Char
  | [] => []
  | [v] => compactChars v
  | v :: rest => compactChars v ++ ',' :: compactItems rest

def compactMembers : List (String × Json) → List Char
  | [] => []
  | [(name, v)] => quoted name.toList ++ ':' :: compactChars v
  | (name, v) :: rest =>
    quoted name.toList ++ ':' :: compactChars v ++ ',' :: compactMembers rest

end

def lineBreak (level : Nat) : List Char := '\n' :: List.replicate (2 * level) ' '

mutual

/-- The value with one item a line, at a level of nesting. -/
def prettyChars (level : Nat) : Json → List Char
  | .arr [] => ['[', ']']
  | .arr (v :: rest) =>
    '[' :: (prettyItems (level + 1) (v :: rest) ++ lineBreak level ++ [']'])
  | .obj [] => ['\x7b', '\x7d']
  | .obj (m :: rest) =>
    '\x7b' :: (prettyMembers (level + 1) (m :: rest) ++ lineBreak level ++ ['\x7d'])
  | .null => compactChars .null
  | .bool b => compactChars (.bool b)
  | .int n => compactChars (.int n)
  | .float x => compactChars (.float x)
  | .str s => compactChars (.str s)

def prettyItems (level : Nat) : List Json → List Char
  | [] => []
  | [v] => lineBreak level ++ prettyChars level v
  | v :: rest => lineBreak level ++ prettyChars level v ++ ',' :: prettyItems level rest

def prettyMembers (level : Nat) : List (String × Json) → List Char
  | [] => []
  | [(name, v)] => lineBreak level ++ quoted name.toList ++ ':' :: ' ' :: prettyChars level v
  | (name, v) :: rest =>
    lineBreak level ++ quoted name.toList ++ ':' :: ' ' :: prettyChars level v ++
      ',' :: prettyMembers level rest

end

def compact (v : Json) : String := String.ofList (compactChars v)

def pretty (v : Json) : String := String.ofList (prettyChars 0 v)

end TableQuery.Json
