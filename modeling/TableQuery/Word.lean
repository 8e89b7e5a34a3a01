import TableQuery.Numeral

/-! # Machine words

Counts that come from outside are words of 64 bits. Sums and products of words stop at the
greatest word instead of starting over at zero.
-/

namespace TableQuery.Word

def greatest : UInt64 := 0xFFFFFFFFFFFFFFFF

/-- The sum, or the greatest word if it is beyond it. -/
def addUpTo (a b : UInt64) : UInt64 := if a.toNat + b.toNat < UInt64.size then a + b else greatest

/-- The product, or the greatest word if it is beyond it. -/
def mulUpTo (a b : UInt64) : UInt64 := if a.toNat * b.toNat < UInt64.size then a * b else greatest

/-- The word of a natural, or the greatest word if it is beyond it. -/
def ofNatUpTo (n : Nat) : UInt64 := if n < UInt64.size then n.toUInt64 else greatest

/-- The word that comes before, or zero. -/
def before (a : UInt64) : UInt64 := if a = 0 then 0 else a - 1

def ofText? (s : String) : Option UInt64 :=
  let ds := match s.toList with
    | '+' :: rest => rest
    | cs => cs
  if ds.isEmpty || !ds.all Char.isDigit then none
  else
    let n := Numeral.natOfDigits ds
    if n < UInt64.size then some n.toUInt64 else none

theorem toNat_greatest : greatest.toNat = UInt64.size - 1 := by decide

theorem toNat_addUpTo (a b : UInt64) :
    (addUpTo a b).toNat = min (a.toNat + b.toNat) greatest.toNat := by
  have size_eq : UInt64.size = 18446744073709551616 := rfl
  have greatest_eq := toNat_greatest
  unfold addUpTo
  split
  · rw [UInt64.toNat_add]
    omega
  · omega

theorem toNat_mulUpTo (a b : UInt64) :
    (mulUpTo a b).toNat = min (a.toNat * b.toNat) greatest.toNat := by
  have greatest_eq := toNat_greatest
  unfold mulUpTo
  split
  · next fits =>
    rw [UInt64.toNat_mul, Nat.mod_eq_of_lt fits]
    omega
  · omega

end TableQuery.Word
