/-! # The double nearest to a decimal

A decimal is a natural number of units of a power of ten. Its double is found by exact
arithmetic on naturals: choose the power of two for which the quotient has 53 binary
digits, round the quotient to the nearest natural with a half going to the even
neighbour, and write exponent and quotient as the bits of the double. Adding the
quotient to the exponent field takes care of subnormal values and of a quotient that is
rounded up to the next power of two.
-/

namespace TableQuery

/-- A natural number of units of a power of ten: `digits * 10 ^ exp`. -/
structure Decimal where
  digits : Nat
  exp : Int
deriving DecidableEq, Repr

namespace Decimal

/-- The natural nearest to a quotient; a half goes to the even neighbour. -/
def roundHalfEven (num den : Nat) : Nat :=
  let quo := num / den
  let rem := num % den
  if 2 * rem < den then quo
  else if den < 2 * rem then quo + 1
  else quo + quo % 2

theorem roundHalfEven_of_dvd {k den : Nat} (positive : 0 < den) :
    roundHalfEven (k * den) den = k := by
  simp [roundHalfEven, Nat.mul_div_cancel k positive, positive]

def precision : Nat := 53

/-- The least power of two that a double is a multiple of. -/
def leastPlace : Int := -1074

/-- One more than the greatest fraction field of a double. -/
def fractionLimit : Nat := 0x10000000000000

def infinityBits : Nat := 2047 * fractionLimit

/-- The power of two whose multiples the doubles near the quotient are. -/
def binaryPlace (num den : Nat) : Int :=
  let guess : Int := (num.log2 : Int) - den.log2 - 52
  let place :=
    if num <<< (-guess).toNat < (fractionLimit * den) <<< guess.toNat then guess - 1 else guess
  max place leastPlace

def bitsOfQuotient (num den : Nat) : Nat :=
  if num = 0 then 0
  else
    let place := binaryPlace num den
    -- The quotient over the power of two, with 53 binary digits if it is not subnormal.
    let units := roundHalfEven (num <<< (-place).toNat) (den <<< place.toNat)
    min ((place - leastPlace).toNat * fractionLimit + units) infinityBits

/-- The bits of the double nearest to a decimal. Decimals beyond `10 ^ 400` are infinite
    and those below `2 ^ -1100` are zero, which spares the large powers of ten. -/
def toBits (d : Decimal) : Nat :=
  if d.digits = 0 then 0
  else if 0 ≤ d.exp then
    if 400 < d.exp then infinityBits
    else bitsOfQuotient (d.digits * Nat.pow 10 d.exp.toNat) 1
  else
    if d.digits.log2 + 1101 ≤ 3 * (-d.exp).toNat then 0
    else bitsOfQuotient d.digits (Nat.pow 10 (-d.exp).toNat)

def signBits : Nat := 0x8000000000000000

def floatOfBits (negative : Bool) (bits : Nat) : Float :=
  Float.ofBits ((if negative then signBits else 0) + bits).toUInt64

def toFloat (negative : Bool) (d : Decimal) : Float := floatOfBits negative d.toBits

end Decimal

def floatOfNat (n : Nat) : Float := Decimal.toFloat false ⟨n, 0⟩

def notANumber : Float := Float.ofBits 0x7FF8000000000000

def infinite (negative : Bool) : Float := Decimal.floatOfBits negative Decimal.infinityBits

end TableQuery
