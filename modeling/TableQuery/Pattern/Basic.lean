import TableQuery.Pattern.CharSet

/-! # Patterns

A pattern describes pieces of text: a character of a set, an empty piece at a certain
kind of place, one piece after another, one of two, or several of a kind. Where it can
take a piece in more than one way, its parts say which way comes first: the left one of
two, and the longest or the shortest of a repetition. A group remembers the piece that
it took.
-/

namespace TableQuery

inductive Boundary where
  | textStart
  | textEnd
  | lineStart
  | lineEnd
  | crlfLineStart
  | crlfLineEnd
  /-- Between a word character and another one, for words made of a set of characters. -/
  | wordEdge (words : CharSet)
  | noWordEdge (words : CharSet)
  | wordStart (words : CharSet)
  | wordEnd (words : CharSet)
  /-- Not behind a word character. -/
  | notAfterWord (words : CharSet)
  /-- Not before a word character. -/
  | notBeforeWord (words : CharSet)

namespace Boundary

/-- Is the place between these two characters of this kind? A missing character stands
    for the end of the text. -/
def holds (before after : Option Char) : Boundary → Bool
  | .textStart => before.isNone
  | .textEnd => after.isNone
  | .lineStart => before.isNone || before == some '\n'
  | .lineEnd => after.isNone || after == some '\n'
  | .crlfLineStart =>
    before.isNone || before == some '\n' || (before == some '\r' && after != some '\n')
  | .crlfLineEnd =>
    after.isNone || after == some '\r' || (after == some '\n' && before != some '\r')
  | .wordEdge w => before.any w.contains != after.any w.contains
  | .noWordEdge w => before.any w.contains == after.any w.contains
  | .wordStart w => !before.any w.contains && after.any w.contains
  | .wordEnd w => before.any w.contains && !after.any w.contains
  | .notAfterWord w => !before.any w.contains
  | .notBeforeWord w => !after.any w.contains

end Boundary

/-- A description of pieces of text. -/
inductive Pattern where
  | empty
  | one (set : CharSet)
  /-- The empty piece at a kind of place. -/
  | edge (boundary : Boundary)
  | seq (first second : Pattern)
  | alt (first second : Pattern)
  /-- At least `least` and at most `most` in a row; the longest first if it is greedy. -/
  | rep (least : Nat) (most : Option Nat) (greedy : Bool) (piece : Pattern)
  /-- The piece, remembered under a number. -/
  | group (number : Nat) (piece : Pattern)

namespace Pattern

/-- One pattern after another. -/
def sequence : List Pattern → Pattern
  | [] => .empty
  | [p] => p
  | p :: rest => .seq p (sequence rest)

def choice : List Pattern → Pattern
  | [] => .one .empty
  | [p] => p
  | p :: rest => .alt p (choice rest)

/-- Exactly this text. -/
def literal (s : List Char) : Pattern := sequence (s.map fun c => .one (.single c))

def text (s : String) : Pattern := literal s.toList

/-- One of some texts, the first that fits. -/
def oneOf (words : List String) : Pattern := choice (words.map text)

def optional (p : Pattern) : Pattern := .rep 0 (some 1) true p

def many1 (p : Pattern) : Pattern := .rep 1 none true p

def many (p : Pattern) : Pattern := .rep 0 none true p

def few1 (p : Pattern) : Pattern := .rep 1 none false p

def blank : Pattern := .one .blank

def blanks1 : Pattern := many1 blank

def blanks : Pattern := many blank

end Pattern

end TableQuery
