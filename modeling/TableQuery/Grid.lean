import TableQuery.Export

/-! # Printed tables

Rows as a table of text: a line of labels, a line of dashes and a line for each row. The
fields of a column are as wide as its longest text, up to a limit beyond which texts are
cut short.
-/

namespace TableQuery.Grid

def widest : Nat := 24

/-- The text as it is shown in so many characters: cut short before an ellipsis, or with
    blanks behind it. -/
def fit (width : Nat) (s : List Char) : List Char :=
  let shown := if width < s.length then s.take (width - 1) ++ ['…'] else s
  shown ++ List.replicate (width - shown.length) ' '

theorem length_fit {width : Nat} (s : List Char) (fits : 0 < width ∨ s = []) :
    (fit width s).length = width := by
  unfold fit
  split
  · next cut =>
    have positive : 0 < width := by
      rcases fits with positive | isEmpty
      · exact positive
      · rw [isEmpty] at cut
        exact absurd cut (Nat.not_lt_zero width)
    simp only [List.length_append, List.length_take, List.length_replicate, List.length_cons,
      List.length_nil]
    omega
  · simp only [List.length_append, List.length_replicate]
    omega

def width (label : List Char) (texts : List (List Char)) : Nat :=
  min widest ((texts.map List.length).foldl max label.length)

def textsAt (i : Nat) (rows : List (List (List Char))) : List (List Char) :=
  rows.map fun r => r[i]?.getD []

def widths (labels : List (List Char)) (rows : List (List (List Char))) : List Nat :=
  labels.mapIdx fun i label => width label (textsAt i rows)

def joinWith (gap : List Char) : List (List Char) → List Char
  | [] => []
  | [field] => field
  | field :: rest => field ++ gap ++ joinWith gap rest

def line (ws : List Nat) (texts : List (List Char)) : List Char :=
  joinWith [' ', '|', ' '] (List.zipWith fit ws texts)

def ruler (ws : List Nat) : List Char :=
  joinWith ['-', '+', '-'] (ws.map fun w => List.replicate w '-')

def linesOf (labels : List (List Char)) (rows : List (List (List Char))) : List (List Char) :=
  let ws := widths labels rows
  line ws labels :: ruler ws :: rows.map (line ws)

/-- The lines of rows under columns; without rows a line that says so. -/
def lines (columns : List Column) : List Row → List (List Char)
  | [] => ["No matching rows".toList]
  | rows => linesOf (Export.header columns) (rows.map (Export.record columns))

end TableQuery.Grid
