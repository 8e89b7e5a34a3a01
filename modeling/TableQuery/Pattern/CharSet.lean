import TableQuery.Text.Blank
import TableQuery.Text.Case
import TableQuery.Text.Digit
import TableQuery.Text.Word

/-! # Sets of characters

The sets that a pattern can ask a character to lie in: ranges, words, digits and blanks,
tables of Unicode properties, and what set algebra and letter case make of them.
Membership is decided for code points, so that the algebra needs no normal form.
-/

namespace TableQuery

inductive CharSet where
  | empty
  /-- All code points from the first to the second. -/
  | range (lo hi : Nat)
  | word
  | digit
  | blank
  | table (ranges : Text.CodeRanges)
  | union (a b : CharSet)
  | inter (a b : CharSet)
  | diff (a b : CharSet)
  | symDiff (a b : CharSet)
  | compl (a : CharSet)
  | folded (a : CharSet)
  /-- All case variants of the members, where only ASCII letters have case. -/
  | asciiFolded (a : CharSet)
deriving Inhabited

namespace CharSet

/-- The other case of an ASCII letter, and any other code point itself. -/
def asciiOther (n : Nat) : Nat :=
  if 65 ≤ n ∧ n ≤ 90 then n + 32 else if 97 ≤ n ∧ n ≤ 122 then n - 32 else n

/-- Does the code point lie in the set? -/
def has (n : Nat) : CharSet → Bool
  | .empty => false
  | .range lo hi => lo ≤ n && n ≤ hi
  | .word => Text.isWordChar (Char.ofNat n)
  | .digit => Text.isDecimalDigit (Char.ofNat n)
  | .blank => Text.isBlank (Char.ofNat n)
  | .table ranges => Text.inRanges n ranges
  | .union a b => a.has n || b.has n
  | .inter a b => a.has n && b.has n
  | .diff a b => a.has n && !b.has n
  | .symDiff a b => a.has n != b.has n
  | .compl a => !a.has n
  | .folded a => (Text.caseVariants n).any fun v => a.has v
  | .asciiFolded a => a.has n || a.has (asciiOther n)

def single (c : Char) : CharSet := .range c.toNat c.toNat

def ofList (cs : List Char) : CharSet := cs.foldr (fun c s => .union (single c) s) .empty

def contains (s : CharSet) (c : Char) : Bool := s.has c.toNat

def all : CharSet := .range 0 0x10FFFF

@[simp] theorem contains_single {c d : Char} : (single c).contains d = (c == d) := by
  simp only [contains, single, has]
  by_cases isSame : c = d
  · subst isSame
    simp
  · have differ : c.toNat ≠ d.toNat := fun same => isSame (Char.toNat_inj.1 same)
    rw [beq_eq_false_iff_ne.2 isSame]
    simp only [Bool.and_eq_false_iff, decide_eq_false_iff_not]
    omega

@[simp] theorem contains_word {c : Char} : word.contains c = Text.isWordChar c := by
  simp [contains, has, Char.ofNat_toNat]

@[simp] theorem contains_digit {c : Char} : digit.contains c = Text.isDecimalDigit c := by
  simp [contains, has, Char.ofNat_toNat]

@[simp] theorem contains_blank {c : Char} : blank.contains c = Text.isBlank c := by
  simp [contains, has, Char.ofNat_toNat]

@[simp] theorem contains_union {a b : CharSet} {c : Char} :
    (union a b).contains c = (a.contains c || b.contains c) := rfl

end CharSet

end TableQuery
