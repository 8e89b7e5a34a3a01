import TableQuery.Json.Printer
import TableQuery.Text.Property

/-! # Texts in quotes

A text as it is shown to a reader who has to see where it begins and ends: in double
quotes, with a backslash before quotes and backslashes, and with the number of each
character that could not be seen or would join the one before it.
-/

namespace TableQuery.Text.Quoted

def hidden : CharSet :=
  .diff (.union (Property.known "c") (Property.known "z")) (.single ' ')

def isShown (c : Char) : Bool :=
  if c.toNat < 0x7F then 0x20 ≤ c.toNat
  else !hidden.contains c && !Property.graphemeExtend.contains c

/-- The digits of a number in base 16, in lower case, at most so many. -/
def hexDigits : Nat → Nat → List Char
  | 0, _ => []
  | fuel + 1, n =>
    if n < 16 then [Json.hexDigit n]
    else hexDigits fuel (n / 16) ++ [Json.hexDigit (n % 16)]

def showChar (c : Char) : List Char :=
  if c = '"' then ['\\', '"']
  else if c = '\\' then ['\\', '\\']
  else if c = '\n' then ['\\', 'n']
  else if c = '\r' then ['\\', 'r']
  else if c = '\t' then ['\\', 't']
  else if c.toNat = 0 then ['\\', '0']
  else if isShown c then [c]
  else ['\\', 'u', '\x7b'] ++ hexDigits 6 c.toNat ++ ['\x7d']

def render (s : String) : String :=
  String.ofList ('"' :: (s.toList.flatMap showChar ++ ['"']))

end TableQuery.Text.Quoted
