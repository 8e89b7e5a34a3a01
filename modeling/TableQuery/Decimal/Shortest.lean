import TableQuery.Decimal.Nearest

/-! # The fewest digits that read back

Of all decimals whose nearest double is a given one, the shortest form is one with the
fewest digits, and of those the one closest to the double. For one, two, … seventeen
digits the search tests the two neighbours of the double on that decimal grid; the first
grid with a hit wins. An exact tie between two hits is left to the caller's rule.
-/

namespace TableQuery

/-- A finite double without its sign: `units * 2 ^ place`. -/
structure Binary where
  units : Nat
  place : Int
deriving DecidableEq, Repr

namespace Binary

def ofBits (bits : Nat) : Binary :=
  let field : Nat := bits / Decimal.fractionLimit % 2048
  let fraction : Nat := bits % Decimal.fractionLimit
  if field = 0 then ⟨fraction, Decimal.leastPlace⟩
  else ⟨Decimal.fractionLimit + fraction, (field : Int) - 1 + Decimal.leastPlace⟩

def num (b : Binary) : Nat := b.units <<< b.place.toNat

def den (b : Binary) : Nat := 1 <<< (-b.place).toNat

def exact (b : Binary) : Decimal :=
  if 0 ≤ b.place then ⟨b.units <<< b.place.toNat, 0⟩
  else ⟨b.units * Nat.pow 5 (-b.place).toNat, b.place⟩

end Binary

namespace Decimal

/-- Where a value goes that is just as far from two neighbours. -/
inductive Tie where
  | toEven
  | away
deriving DecidableEq, Repr

def belowPower (num den : Nat) (k : Int) : Bool :=
  num * Nat.pow 10 (-k).toNat < den * Nat.pow 10 k.toNat

/-- The least power of ten above the quotient. The first guess, from the binary
    logarithms, is at most three steps too low. -/
def powerAbove (num den : Nat) : Int :=
  let guess := ((num.log2 : Int) - den.log2 - 1) * 30103 / 100000
  if belowPower num den guess then guess
  else if belowPower num den (guess + 1) then guess + 1
  else if belowPower num den (guess + 2) then guess + 2
  else guess + 3

/-- Of the two neighbours of `num / den` on the grid `10 ^ place`, the closest that reads
    back as the double with these bits, if one of them does. -/
def neighbour? (tie : Tie) (bits num den : Nat) (place : Int) : Option Decimal :=
  let scaledNum := num * Nat.pow 10 (-place).toNat
  let scaledDen := den * Nat.pow 10 place.toNat
  let below := scaledNum / scaledDen
  let rem := scaledNum % scaledDen
  let lo : Decimal := ⟨below, place⟩
  let hi : Decimal := ⟨below + 1, place⟩
  if lo.toBits = bits then
    if hi.toBits = bits then
      if 2 * rem < scaledDen then some lo
      else if scaledDen < 2 * rem then some hi
      else match tie with
        | .toEven => some (if below % 2 = 0 then lo else hi)
        | .away => some hi
    else some lo
  else if hi.toBits = bits then some hi
  else none

/-- Move trailing zeros of the digits into the exponent, `fuel` of them at most. -/
def stripZeros : Nat → Decimal → Decimal
  | 0, d => d
  | fuel + 1, d =>
    if d.digits % 10 = 0 ∧ d.digits ≠ 0 then stripZeros fuel ⟨d.digits / 10, d.exp + 1⟩ else d

def shortest (tie : Tie) (bits : Nat) : Decimal :=
  let b := Binary.ofBits bits
  let top := powerAbove b.num b.den
  -- The grid with `n + 1` digits lies that many places below the top.
  let hit := (List.range 17).findSome? fun n =>
    neighbour? tie bits b.num b.den (top - (n + 1 : Nat))
  let d := hit.getD b.exact
  stripZeros d.digits.log2 d

/-- Whatever the search over the grids hits reads back. -/
theorem toBits_neighbour? {tie : Tie} {bits num den : Nat} {place : Int} {d : Decimal}
    (isHit : neighbour? tie bits num den place = some d) : d.toBits = bits := by
  simp only [neighbour?] at isHit
  split at isHit
  · split at isHit
    · split at isHit
      · simp_all
      · split at isHit
        · simp_all
        · cases tie with
          | toEven =>
            simp only [Option.some.injEq] at isHit
            split at isHit <;> simp_all
          | away => simp_all
    · simp_all
  · split at isHit
    · simp_all
    · cases isHit

end Decimal

end TableQuery
