/-! # Ranges of code points

Properties of characters are given as sorted lists of disjoint, inclusive ranges of
code points, and case mappings as runs of code points that move alike.
-/

namespace TableQuery.Text

abbrev CodeRanges := List (Nat × Nat)

/-- Is the code point in one of the ranges? The list is sorted, so the search stops at
    the first range that begins above the code point. -/
def inRanges (n : Nat) : CodeRanges → Bool
  | [] => false
  | (lo, hi) :: rest => if n < lo then false else n ≤ hi || inRanges n rest

/-- A run of code points, every `stride`-th one from `lo` to `hi`, that all move by `shift`. -/
structure ShiftRun where
  lo : Nat
  hi : Nat
  stride : Nat
  shift : Int

namespace ShiftRun

def covers (r : ShiftRun) (n : Nat) : Bool :=
  r.lo ≤ n && n ≤ r.hi && (n - r.lo) % r.stride == 0

/-- Where the first run that covers the code point moves it, if one does. -/
def image? (runs : List ShiftRun) (n : Nat) : Option Nat :=
  (runs.find? (·.covers n)).map fun r => ((n : Int) + r.shift).toNat

/-- The code points that some run moves to this one. -/
def preimages (runs : List ShiftRun) (n : Nat) : List Nat :=
  runs.filterMap fun r =>
    let source := ((n : Int) - r.shift).toNat
    if r.covers source then some source else none

end ShiftRun

end TableQuery.Text
