import TableQuery.Decimal.Shortest

/-! # Laying out the digits of a double

The shortest digits of a double become text by a few decisions, which a `Layout` holds:
the exponents that are written out with zeros, whether whole numbers keep a fraction,
how a tie between two shortest forms goes, and how zero and the values that are no
finite numbers are written.
-/

namespace TableQuery

/-- The decisions that turn digits into text. -/
structure Layout where
  /-- The least decimal exponent that is written out. -/
  plainFrom : Int
  /-- The least decimal exponent above those that are written out. -/
  plainBelow : Int
  /-- Does a whole number that is written out end in `.0`? -/
  fraction : Bool
  /-- Which of two equally close shortest forms is taken. -/
  tie : Decimal.Tie
  signedZero : Bool
  nan : String
  infinity : String
  negInfinity : String

namespace Layout

def digitsOf (n : Nat) : List Char := Nat.toDigits 10 n

def zeros (n : Nat) : List Char := List.replicate n '0'

/-- Digits of which the first `point` stand before the decimal point, written out. -/
def plain (fraction : Bool) (ds : List Char) (point : Int) : List Char :=
  if point ≤ 0 then '0' :: '.' :: zeros (-point).toNat ++ ds
  else if ds.length ≤ point.toNat then
    ds ++ zeros (point.toNat - ds.length) ++ (if fraction then ['.', '0'] else [])
  else ds.take point.toNat ++ '.' :: ds.drop point.toNat

/-- Digits with one before the decimal point and a power of ten with its sign. -/
def scientific (ds : List Char) (exponent : Int) : List Char :=
  let mantissa := match ds with
    | [] => []
    | [d] => [d]
    | d :: more => d :: '.' :: more
  mantissa ++ 'e' :: (if exponent < 0 then '-' else '+') :: digitsOf exponent.natAbs

def renderDecimal (l : Layout) (d : Decimal) : List Char :=
  let ds := digitsOf d.digits
  let point := ds.length + d.exp
  if l.plainFrom ≤ point - 1 ∧ point - 1 < l.plainBelow then plain l.fraction ds point
  else scientific ds (point - 1)

def renderBits (l : Layout) (negative : Bool) (bits : Nat) : List Char :=
  if Decimal.infinityBits < bits then l.nan.toList
  else if bits = Decimal.infinityBits then
    if negative then l.negInfinity.toList else l.infinity.toList
  else if bits = 0 then
    (if negative && l.signedZero then ['-'] else []) ++ (if l.fraction then ['0', '.', '0'] else ['0'])
  else (if negative then ['-'] else []) ++ l.renderDecimal (Decimal.shortest l.tie bits)

def render (l : Layout) (x : Float) : List Char :=
  let bits := x.toBits.toNat
  l.renderBits (Decimal.signBits ≤ bits) (bits % Decimal.signBits)

end Layout

end TableQuery
