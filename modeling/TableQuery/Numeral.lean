import TableQuery.Decimal.Layout
import TableQuery.Text.Blank

/-! # Numerals

The texts that count as numbers, and the text that a number is shown as. A numeral is a
signed decimal with an optional fraction and exponent, the word `Infinity` with an
optional sign, or an unsigned literal in base 16, 8 or 2. Blanks around it are left
aside, the empty text counts as zero, and any other text is no number.
-/

namespace TableQuery.Numeral

/-- An optional sign in front: whether it was a minus, and what follows. -/
def splitSign : List Char → Bool × List Char
  | '-' :: rest => (true, rest)
  | '+' :: rest => (false, rest)
  | s => (false, s)

def splitDigits (s : List Char) : List Char × List Char :=
  (s.takeWhile Char.isDigit, s.dropWhile Char.isDigit)

def digitValue (c : Char) : Nat :=
  if c.isDigit then c.toNat - '0'.toNat
  else if 'a' ≤ c ∧ c ≤ 'f' then c.toNat - 'a'.toNat + 10
  else if 'A' ≤ c ∧ c ≤ 'F' then c.toNat - 'A'.toNat + 10
  else 36

def natOfDigits (ds : List Char) : Nat := ds.foldl (fun n c => 10 * n + digitValue c) 0

/-- An exponent that ends the numeral: nothing, or `e`, an optional sign and digits. -/
def exponent? : List Char → Option Int
  | [] => some 0
  | c :: rest =>
    if c = 'e' ∨ c = 'E' then
      let (negative, ds) := splitSign rest
      if ds.isEmpty || !ds.all Char.isDigit then none
      else some (if negative then -(natOfDigits ds : Int) else natOfDigits ds)
    else none

/-- Digits with an optional fraction, or a fraction alone: the digits before the point,
    those after it, and what follows. -/
def mantissa? (s : List Char) : Option (List Char × List Char × List Char) :=
  let (whole, rest) := splitDigits s
  match rest with
  | '.' :: more =>
    let (part, rest) := splitDigits more
    if whole.isEmpty && part.isEmpty then none else some (whole, part, rest)
  | _ => if whole.isEmpty then none else some (whole, [], rest)

def unsignedDecimal? (s : List Char) : Option Decimal :=
  match mantissa? s with
  | none => none
  | some (whole, part, rest) =>
    (exponent? rest).map fun e => ⟨natOfDigits (whole ++ part), e - part.length⟩

def decimal? (s : List Char) : Option Float :=
  let (negative, rest) := splitSign s
  (unsignedDecimal? rest).map (Decimal.toFloat negative)

def infinity? (s : List Char) : Option Float :=
  let (negative, rest) := splitSign s
  if rest = "Infinity".toList then some (infinite negative) else none

/-- The base that the letter after a leading zero stands for. -/
def radixOf? (c : Char) : Option Nat :=
  if c = 'x' ∨ c = 'X' then some 16
  else if c = 'o' ∨ c = 'O' then some 8
  else if c = 'b' ∨ c = 'B' then some 2
  else none

/-- The natural nearest to `n` with at most 53 binary digits before its trailing zeros. -/
def keepPrecision (n : Nat) : Nat :=
  let excess := n.log2 + 1 - Decimal.precision
  Decimal.roundHalfEven n (1 <<< excess) <<< excess

/-- The value of digits in a base, rounded to the precision of a double at each digit. -/
def radixValue (radix : Nat) (ds : List Char) : Nat :=
  ds.foldl (fun n c => keepPrecision (radix * n + digitValue c)) 0

def radix? : List Char → Option Float
  | '0' :: letter :: ds =>
    match radixOf? letter with
    | none => none
    | some radix =>
      if ds.isEmpty || !ds.all (fun c => digitValue c < radix) then none
      else some (floatOfNat (radixValue radix ds))
  | _ => none

def value? (s : List Char) : Option Float :=
  radix? s <|> infinity? s <|> decimal? s

def ofChars (s : List Char) : Float :=
  let t := Text.trim s
  if t.isEmpty then 0 else (value? t).getD notANumber

def ofText (s : String) : Float := ofChars s.toList

/-- Numbers are written out from `1e-6` up to `1e21`, and zero has no sign. -/
def layout : Layout where
  plainFrom := -6
  plainBelow := 21
  fraction := false
  tie := .away
  signedZero := false
  nan := "NaN"
  infinity := "Infinity"
  negInfinity := "-Infinity"

def text (x : Float) : String := String.ofList (layout.render x)

end TableQuery.Numeral
