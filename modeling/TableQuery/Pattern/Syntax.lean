/-! # The written form of patterns

What a pattern's text says before letter case and the other flags give it a meaning.
-/

namespace TableQuery.Pattern

/-- A change of flags: each letter with whether it is switched on. -/
abbrev FlagChange := List (Char × Bool)

inductive LetterClass where
  | digit
  | blank
  | word
deriving DecidableEq, Repr

inductive PropertyQuery where
  | named (name : List Char)
  | valued (property value : List Char)
deriving DecidableEq, Repr

/-- What two parts of a bracketed class are made into. -/
inductive ClassOp where
  | inter
  | diff
  | symDiff
deriving DecidableEq, Repr

structure WrittenChar where
  char : Char
  isByte : Bool
deriving DecidableEq, Repr

inductive ClassSyntax where
  | char (c : WrittenChar)
  | range (lo hi : WrittenChar)
  | ascii (name : String) (negated : Bool)
  | letter (kind : LetterClass) (negated : Bool)
  | property (query : PropertyQuery) (negated : Bool)
  | bracket (negated : Bool) (body : ClassSyntax)
  | union (items : List ClassSyntax)
  | op (kind : ClassOp) (lhs rhs : ClassSyntax)

inductive EdgeSyntax where
  | caret
  | dollar
  | textStart
  | textEnd
  | wordEdge
  | noWordEdge
  | wordStart
  | wordEnd
  | notAfterWord
  | notBeforeWord
deriving DecidableEq, Repr

inductive Syntax where
  | empty
  | flags (change : FlagChange)
  | char (c : WrittenChar)
  | dot
  | edge (kind : EdgeSyntax)
  | cls (c : ClassSyntax)
  | rep (least : Nat) (most : Option Nat) (greedy : Bool) (piece : Syntax)
  | group (change : FlagChange) (captures : Bool) (piece : Syntax)
  | alt (branches : List Syntax)
  | concat (items : List Syntax)

mutual

/-- How deep the parts of a class nest. -/
def ClassSyntax.depth : ClassSyntax → Nat
  | .bracket _ body => body.depth + 1
  | .union items => ClassSyntax.depths items + 1
  | .op _ lhs rhs => max lhs.depth rhs.depth + 1
  | _ => 0

def ClassSyntax.depths : List ClassSyntax → Nat
  | [] => 0
  | c :: rest => max c.depth (ClassSyntax.depths rest)

end

mutual

def Syntax.depth : Syntax → Nat
  | .cls c => c.depth
  | .rep _ _ _ p => p.depth + 1
  | .group _ _ p => p.depth + 1
  | .alt ps => Syntax.depths ps + 1
  | .concat ps => Syntax.depths ps + 1
  | _ => 0

def Syntax.depths : List Syntax → Nat
  | [] => 0
  | p :: rest => max p.depth (Syntax.depths rest)

end

end TableQuery.Pattern
