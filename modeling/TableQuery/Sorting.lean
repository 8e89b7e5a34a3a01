import TableQuery.Filter

/-! # Ordering rows

Texts are ordered by code point, all other pairs of cells by the numbers they count as,
and pairs that cannot be compared count as equal. That comparison is not transitive when
texts and numbers mix, so the result of a sort is what this merge sort makes of it: runs
of one row are merged in pairs until one run is left, and a row of the right run goes
first only if it is less.
-/

namespace TableQuery

def compareText (a b : String) : Ordering :=
  if a < b then .lt else if b < a then .gt else .eq

/-- Compare doubles; one that is no number counts as equal to all. -/
def compareNumbers (a b : Float) : Ordering :=
  if a < b then .lt else if b < a then .gt else .eq

/-- Compare cells that may be missing; a missing one counts as equal to all. -/
def compareCells : Option Cell → Option Cell → Ordering
  | some (.text a), some (.text b) => compareText a b
  | some a, some b => compareNumbers a.toNumber b.toNumber
  | _, _ => .eq

namespace MergeSort

variable {α : Type}

/-- Merge two runs; an item of the right run goes first only if it is less. -/
def merge (compare : α → α → Ordering) : List α → List α → List α
  | [], right => right
  | left, [] => left
  | a :: left, b :: right =>
    if compare b a = .lt then b :: merge compare (a :: left) right
    else a :: merge compare left (b :: right)
termination_by left right => left.length + right.length

/-- Merge each run of an odd place with the one behind it. -/
def mergePairs (compare : α → α → Ordering) : List (List α) → List (List α)
  | a :: b :: rest => merge compare a b :: mergePairs compare rest
  | runs => runs

theorem length_mergePairs_le (compare : α → α → Ordering) (runs : List (List α)) :
    (mergePairs compare runs).length ≤ runs.length := by
  fun_induction mergePairs compare runs with
  | case1 a b rest inductionHypothesis =>
    simp only [List.length_cons]
    omega
  | case2 => simp

def mergeAll (compare : α → α → Ordering) : List (List α) → List α
  | [] => []
  | [run] => run
  | a :: b :: rest => mergeAll compare (merge compare a b :: mergePairs compare rest)
termination_by runs => runs.length
decreasing_by
  have := length_mergePairs_le compare rest
  simp only [List.length_cons]
  omega

def sort (compare : α → α → Ordering) (items : List α) : List α :=
  mergeAll compare (items.map fun a => [a])

end MergeSort

namespace SortKey

def compareRows (key : SortKey) (a b : Row) : Ordering :=
  key.order.apply (compareCells (a.get? key.column) (b.get? key.column))

def arrange (key : SortKey) (entries : List Entry) : List Entry :=
  MergeSort.sort (fun a b => key.compareRows a.row b.row) entries

end SortKey

end TableQuery
