import TableQuery.Decimal.Layout

/-! # A set number of decimal places

A double is written with a set number of places by rounding its exact value; a half goes
to the even neighbour. The sign is kept even when nothing but zeros remains.
-/

namespace TableQuery.Decimal

/-- The finite value with the given places. -/
def placesText (places : Nat) (b : Binary) : List Char :=
  let unit := Nat.pow 10 places
  let scaled := roundHalfEven (b.num * unit) b.den
  let whole := Layout.digitsOf (scaled / unit)
  if places = 0 then whole
  else
    let part := Layout.digitsOf (scaled % unit)
    whole ++ '.' :: (Layout.zeros (places - part.length) ++ part)

def fixed (places : Nat) (x : Float) : String :=
  let all := x.toBits.toNat
  let bits := all % signBits
  let sign := if signBits ≤ all then ['-'] else []
  String.ofList <|
    if infinityBits < bits then "NaN".toList
    else if bits = infinityBits then sign ++ "inf".toList
    else sign ++ placesText places (Binary.ofBits bits)

end TableQuery.Decimal
