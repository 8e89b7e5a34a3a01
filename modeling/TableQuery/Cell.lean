import TableQuery.Json.Printer
import TableQuery.Numeral

/-! # Cells

A cell of a table is empty, a truth value, a number or a text. Numbers are doubles;
whole numbers that a double holds without a gap to their neighbours are written without
a fraction.
-/

namespace TableQuery

inductive Cell where
  | null
  | bool (value : Bool)
  | number (value : Float)
  | text (value : String)
deriving BEq, Inhabited

namespace Cell

/-- The greatest natural up to which a double holds every whole number. -/
def wholeLimit : Nat := 9007199254740991

/-- The whole number that a double is, if it is one of magnitude at most `wholeLimit`. -/
def whole? (x : Float) : Option Int :=
  let all := x.toBits.toNat
  let bits := all % Decimal.signBits
  if Decimal.infinityBits ≤ bits then none
  else
    let b := Binary.ofBits bits
    if b.num % b.den = 0 ∧ b.num / b.den ≤ wholeLimit then
      some (if Decimal.signBits ≤ all then -(b.num / b.den : Nat) else (b.num / b.den : Nat))
    else none

def display : Cell → String
  | .null => "null"
  | .bool true => "true"
  | .bool false => "false"
  | .number x => Numeral.text x
  | .text s => s

def toNumber : Cell → Float
  | .null => 0
  | .bool true => 1
  | .bool false => 0
  | .number x => x
  | .text s => Numeral.ofText s

/-- Is the cell empty, false, zero, no number or without text? -/
def isFalsy : Cell → Bool
  | .null => true
  | .bool b => !b
  | .number x => x == 0 || x.isNaN
  | .text s => s.isEmpty

def isNull : Cell → Bool
  | .null => true
  | _ => false

def text? : Cell → Option String
  | .text s => some s
  | _ => none

def number? : Cell → Option Float
  | .number x => some x
  | _ => none

def toJson : Cell → Json
  | .null => .null
  | .bool b => .bool b
  | .number x => match whole? x with
    | some n => .int n
    | none => .float x
  | .text s => .str s

/-- The cell of a structured value; arrays and objects are kept as their text. -/
def ofJson : Json → Cell
  | .null => .null
  | .bool b => .bool b
  | .int n => .number (Decimal.toFloat (n < 0) ⟨n.natAbs, 0⟩)
  | .float x => .number x
  | .str s => .text s
  | v => .text (v.settled).compact

end Cell

end TableQuery
