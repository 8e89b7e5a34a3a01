import TableQuery.Word

/-! # Pages

A result is shown in pages of a set size. Page numbers and sizes are machine words, and
the bounds of a page are computed with operations that stop at the greatest word, so that
a page far beyond the end is empty. A size of zero counts as one.
-/

namespace TableQuery

def pageCount (total : Nat) (size : UInt64) : Nat :=
  let n := max size.toNat 1
  (total + (n - 1)) / n

/-- One page of a list. -/
structure Page (α : Type) where
  items : List α
  /-- The number of the page, counted from zero. -/
  index : UInt64
  size : UInt64
  /-- How many items all pages hold together. -/
  total : Nat
  pages : Nat

namespace Page

variable {α : Type}

def of (items : List α) (index size : UInt64) : Page α :=
  let size := max size 1
  let total := items.length
  let start := min (Word.mulUpTo index size).toNat total
  let stop := min (Word.addUpTo (Word.ofNatUpTo start) size).toNat total
  ⟨(items.drop start).take (stop - start), index, size, total, pageCount total size⟩

def isEmpty (p : Page α) : Bool := p.items.isEmpty

/-- Does a page follow? The number of the next page is a word again. -/
def hasNext (p : Page α) : Bool := (p.index + 1).toNat < p.pages

def hasPrevious (p : Page α) : Bool := 0 < p.index

end Page

end TableQuery
