import TableQuery.Pattern.Basic

/-! # Whether a pattern matches

To tell whether a pattern matches somewhere in a text, follow all places at once: from a
set of places a pattern reaches a set of places. Sets of places are the binary digits of
naturals, so one step over the text is a few operations on a natural, and a repetition
is followed until it reaches nothing new.
-/

namespace TableQuery.Pattern

abbrev PlaceSet := Nat

/-- The places below a bound that pass a test. -/
def placesWhere (test : Nat → Bool) : Nat → PlaceSet
  | 0 => 0
  | n + 1 => if test n then placesWhere test n ||| (1 <<< n) else placesWhere test n

/-- Apply a step so many times, or until nothing changes. -/
def iterate (step : PlaceSet → PlaceSet) : Nat → PlaceSet → PlaceSet
  | 0, s => s
  | n + 1, s =>
    let next := step s
    if next = s then s else iterate step n next

/-- The places that at most so many steps reach. -/
def closure (step : PlaceSet → PlaceSet) : Nat → PlaceSet → PlaceSet
  | 0, s => s
  | n + 1, s =>
    let next := s ||| step s
    if next = s then s else closure step n next

def around (text : Array Char) (i : Nat) : Option Char × Option Char :=
  (if i = 0 then none else text[i - 1]?, text[i]?)

def reach (text : Array Char) : Pattern → PlaceSet → PlaceSet
  | .empty, s => s
  | .one set, s =>
    if s = 0 then 0
    else (s &&& placesWhere (fun i => text[i]?.any set.contains) text.size) <<< 1
  | .edge b, s =>
    if s = 0 then 0
    else s &&& placesWhere (fun i => b.holds (around text i).1 (around text i).2) (text.size + 1)
  | .seq p q, s => reach text q (reach text p s)
  | .alt p q, s => reach text p s ||| reach text q s
  | .rep least most _ p, s =>
    let started := iterate (reach text p) least s
    match most with
    | some m => closure (reach text p) (m - least) started
    | none => closure (reach text p) (text.size + 1) started
  | .group _ p, s => reach text p s

/-- Does the pattern match somewhere in the text? -/
def occursIn (p : Pattern) (s : List Char) : Bool :=
  let text := s.toArray
  -- Begin at all places, the one behind the last character included.
  reach text p (1 <<< (text.size + 1) - 1) != 0

end TableQuery.Pattern
