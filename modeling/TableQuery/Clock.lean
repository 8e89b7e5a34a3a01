import TableQuery.Decimal.Layout

/-! # Clock times

A clock time is a count of nanoseconds since the beginning of 1970, and is written by the
Gregorian calendar and universal time.
-/

namespace TableQuery

structure Day where
  year : Nat
  month : Nat
  day : Nat
deriving DecidableEq, Repr

/-- The day so many days after the beginning of 1970. Days are counted from the first of
    March of the year zero, so that a leap day ends a year, and in spans of four hundred
    years, which are all of one length. -/
def Day.since1970 (n : Nat) : Day :=
  let z := n + 719468
  let span := z % 146097
  let years := (span - span / 1460 + span / 36524 - span / 146096) / 365
  let ofYear := span - (365 * years + years / 4 - years / 100)
  let marchMonth := (5 * ofYear + 2) / 153
  let month := if marchMonth < 10 then marchMonth + 3 else marchMonth - 9
  { year := years + 400 * (z / 146097) + if month ≤ 2 then 1 else 0
    month := month
    day := ofYear - (153 * marchMonth + 2) / 5 + 1 }

structure ClockTime where
  nanoseconds : Nat

namespace ClockTime

/-- A number with so many digits at least. -/
def digits (count n : Nat) : String :=
  let ds := Layout.digitsOf n
  String.ofList (List.replicate (count - ds.length) '0' ++ ds)

def secondLength : Nat := 1000000000

def seconds (t : ClockTime) : Nat := t.nanoseconds / secondLength

def day (t : ClockTime) : Day := Day.since1970 (t.seconds / 86400)

def dayText (gap : String) (t : ClockTime) : String :=
  digits 4 t.day.year ++ gap ++ digits 2 t.day.month ++ gap ++ digits 2 t.day.day

def timeText (gap : String) (t : ClockTime) : String :=
  let s := t.seconds % 86400
  digits 2 (s / 3600) ++ gap ++ digits 2 (s / 60 % 60) ++ gap ++ digits 2 (s % 60)

/-- The part of a second, in as few groups of three digits as hold it. -/
def fractionText (t : ClockTime) : String :=
  let n := t.nanoseconds % secondLength
  if n = 0 then ""
  else if n % 1000000 = 0 then "." ++ digits 3 (n / 1000000)
  else if n % 1000 = 0 then "." ++ digits 6 (n / 1000)
  else "." ++ digits 9 n

def text (t : ClockTime) : String :=
  t.dayText "-" ++ "T" ++ t.timeText ":" ++ t.fractionText ++ "Z"

end ClockTime

end TableQuery
