import TableQuery.Pattern.Basic

/-! # The first match

The first match of a pattern in a text is the one that begins furthest to the left and,
of those, the one that comes first in the order of the pattern's own choices. A pattern
is run from a place of the text together with what is to be done behind the piece it
takes: the first way for which the rest succeeds is the answer.
-/

namespace TableQuery.Pattern

/-- A place in a text: what stands before it, nearest first, and what follows. -/
structure Place where
  before : List Char
  after : List Char

namespace Place

def index (p : Place) : Nat := p.before.length

/-- The characters from an earlier place up to this one. -/
def since (p : Place) (start : Place) : List Char :=
  (p.before.take (p.index - start.index)).reverse

def allFrom (before : List Char) : List Char → List Place
  | [] => [⟨before, []⟩]
  | c :: rest => ⟨before, c :: rest⟩ :: allFrom (c :: before) rest

end Place

structure Piece where
  number : Nat
  /-- How many characters of the text stand before the piece. -/
  start : Nat
  chars : List Char
deriving DecidableEq, Repr

abbrev Pieces := List Piece

/-- The piece that was last remembered under a number. -/
def Pieces.get? (ps : Pieces) (number : Nat) : Option (List Char) :=
  (ps.find? (·.number = number)).map (·.chars)

section

variable {β : Type}

/-- What is to be done at a place with the pieces remembered so far. -/
abbrev Rest (β : Type) := Place → Pieces → Option β

/-- So many of a pattern in a row. -/
def runTimes (step : Place → Pieces → Rest β → Option β) : Nat → Place → Pieces → Rest β → Option β
  | 0, at_, ps, k => k at_ ps
  | n + 1, at_, ps, k => step at_ ps fun next ps => runTimes step n next ps k

/-- At most so many of a pattern in a row, each of which moves on. -/
def runUpTo (step : Place → Pieces → Rest β → Option β) (greedy : Bool) :
    Nat → Place → Pieces → Rest β → Option β
  | 0, at_, ps, k => k at_ ps
  | n + 1, at_, ps, k =>
    -- A further round must take a character.
    let further := fun (_ : Unit) => step at_ ps fun next ps =>
      if next.after.length < at_.after.length then runUpTo step greedy n next ps k else none
    if greedy then
      match further () with
      | some r => some r
      | none => k at_ ps
    else
      match k at_ ps with
      | some r => some r
      | none => further ()

/-- The first way to take a piece from a place on for which the rest succeeds. -/
def run : Pattern → Place → Pieces → Rest β → Option β
  | .empty, at_, ps, k => k at_ ps
  | .one set, ⟨before, after⟩, ps, k =>
    match after with
    | [] => none
    | c :: rest => if set.contains c then k ⟨c :: before, rest⟩ ps else none
  | .edge b, at_, ps, k =>
    if b.holds at_.before.head? at_.after.head? then k at_ ps else none
  | .seq p q, at_, ps, k => run p at_ ps fun next ps => run q next ps k
  | .alt p q, at_, ps, k =>
    match run p at_ ps k with
    | some r => some r
    | none => run q at_ ps k
  | .rep least most greedy p, at_, ps, k =>
    let bound := match most with
      | some m => m - least
      | none => at_.after.length
    runTimes (run p) least at_ ps fun next ps => runUpTo (run p) greedy bound next ps k
  | .group number p, at_, ps, k =>
    run p at_ ps fun next ps => k next (⟨number, at_.index, next.since at_⟩ :: ps)

end

structure Found where
  start : Nat
  chars : List Char
  after : List Char
  pieces : Pieces

def Found.stop (f : Found) : Nat := f.start + f.chars.length

def matchAt? (p : Pattern) (start : Place) : Option Found :=
  run p start [] fun stop ps => some ⟨start.index, stop.since start, stop.after, ps⟩

def find? (p : Pattern) (s : List Char) : Option Found :=
  (Place.allFrom [] s).findSome? (matchAt? p)

end TableQuery.Pattern
