import Mathlib
import TableQuery.Grid

/-! # Printed tables are rectangles

A column is as wide as its longest text, as far as the limit goes.  So a text that is longer than
its field is wide has been cut short, and a field without width has nothing to hold.  Every field
is then as wide as its column, and every line as wide as all columns and the gaps between them.
-/

namespace TableQuery.Grid

def textAt (row : Row) (column : Column) : List Char :=
  (Export.fieldText (row.get? column.key)).toList

/-- The texts that stand in a column, its label above those of the rows. -/
def textsOf (rows : List Row) (column : Column) : List (List Char) :=
  column.label.toList :: rows.map (textAt · column)

/-- Is it the length of the longest text in the column, or the limit if that is longer? -/
def IsWidth (rows : List Row) (column : Column) (w : Nat) : Prop :=
  ∃ longest, IsGreatest {n | ∃ text ∈ textsOf rows column, n = text.length} longest ∧
    w = min longest 24

/-- What stands for a text in a field of so many characters: the text if it fits, and otherwise
    what is left of it before an ellipsis. -/
inductive Fills (w : Nat) (text : List Char) : List Char → Prop where
  | whole (fits : text.length ≤ w) :
      Fills w text (text ++ List.replicate (w - text.length) ' ')
  | cut (isLonger : w < text.length) : Fills w text (text.take (w - 1) ++ ['…'])

/-- Are these the fields of the texts, and is each as wide as it should be? -/
inductive AreFields : List Nat → List (List Char) → List (List Char) → Prop where
  | nil : AreFields [] [] []
  | cons {w : Nat} {ws : List Nat} {text field : List Char} {texts fields : List (List Char)}
      (length_eq : field.length = w) (fills : Fills w text field)
      (later : AreFields ws texts fields) : AreFields (w :: ws) (text :: texts) (field :: fields)

def IsLine (ws : List Nat) (texts : List (List Char)) (l : List Char) : Prop :=
  ∃ fields, AreFields ws texts fields ∧ l = [' ', '|', ' '].intercalate fields

/-- Are these the lines of the rows under the columns, and is one as long as the other? -/
structure IsTable (columns : List Column) (rows : List Row) (ws : List Nat)
    (ls : List (List Char)) : Prop where
  areWidths : List.Forall₂ (IsWidth rows) columns ws
  areLines : ∃ labels body,
    ls = labels :: ['-', '+', '-'].intercalate (ws.map (List.replicate · '-')) :: body ∧
      IsLine ws (columns.map (·.label.toList)) labels ∧
      List.Forall₂ (fun row => IsLine ws (columns.map (textAt row))) rows body
  length_eq : ∀ l ∈ ls, l.length = ws.sum + 3 * (columns.length - 1)

/-! ## Fields and lines -/

variable {ws : List Nat} {texts fields : List (List Char)} {l : List Char}

theorem fills_fit (w : Nat) (text : List Char) : Fills w text (fit w text) := by
  by_cases isLonger : w < text.length
  · have full : w - (text.take (w - 1) ++ ['…']).length = 0 := by
      simp only [List.length_append, List.length_take, List.length_singleton]
      omega
    simp only [fit, if_pos isLonger, full, List.replicate_zero, List.append_nil]
    exact .cut isLonger
  · simp only [fit, if_neg isLonger]
    exact .whole (Nat.le_of_not_lt isLonger)

/-- A field can be as wide as it should be if it has room for a character, or nothing to hold. -/
theorem areFields_fit (room : List.Forall₂ (fun w text => 0 < w ∨ text = []) ws texts) :
    AreFields ws texts (List.zipWith fit ws texts) := by
  induction room with
  | nil => exact .nil
  | cons here later inductionHypothesis =>
    exact .cons (length_fit _ here) (fills_fit _ _) inductionHypothesis

theorem AreFields.map_length (areFields : AreFields ws texts fields) :
    fields.map List.length = ws := by
  induction areFields with
  | nil => rfl
  | cons length_eq fills later inductionHypothesis =>
    rw [List.map_cons, length_eq, inductionHypothesis]

theorem joinWith_eq_intercalate (gap : List Char) (fields : List (List Char)) :
    joinWith gap fields = gap.intercalate fields := by
  induction fields using joinWith.induct with
  | case1 => rfl
  | case2 field => exact List.intercalate_singleton.symm
  | case3 field rest nonempty inductionHypothesis =>
    rw [joinWith, inductionHypothesis, List.intercalate_cons_of_ne_nil nonempty]
    exact nonempty

theorem length_intercalate (gap : List Char) (fields : List (List Char)) :
    (gap.intercalate fields).length =
      (fields.map List.length).sum + gap.length * (fields.length - 1) := by
  induction fields with
  | nil => rfl
  | cons field rest inductionHypothesis =>
    cases rest with
    | nil => simp [List.intercalate_singleton]
    | cons next rest =>
      rw [List.intercalate_cons_cons, List.length_append, List.length_append, inductionHypothesis]
      simp only [List.map_cons, List.sum_cons, List.length_cons, Nat.add_sub_cancel, Nat.mul_succ]
      omega

theorem isLine_line (room : List.Forall₂ (fun w text => 0 < w ∨ text = []) ws texts) :
    IsLine ws texts (line ws texts) :=
  ⟨_, areFields_fit room, joinWith_eq_intercalate _ _⟩

theorem IsLine.length_eq (isLine : IsLine ws texts l) :
    l.length = ws.sum + 3 * (ws.length - 1) := by
  obtain ⟨fields, areFields, rfl⟩ := isLine
  have areWidths := areFields.map_length
  have isCount := congrArg List.length areWidths
  rw [List.length_map] at isCount
  rw [length_intercalate, areWidths, isCount]
  rfl

theorem length_ruler (ws : List Nat) : (ruler ws).length = ws.sum + 3 * (ws.length - 1) := by
  have areWidths : (ws.map (List.replicate · '-')).map List.length = ws := by
    simp [Function.comp_def]
  rw [ruler, joinWith_eq_intercalate, length_intercalate, areWidths, List.length_map]
  rfl

/-! ## Widths -/

variable {columns : List Column} {rows : List Row} {column : Column} {w : Nat}

theorem isGreatest_foldl_max (n : Nat) (ns : List Nat) :
    IsGreatest {k | k ∈ n :: ns} (ns.foldl max n) := by
  have isMax : (n :: ns).max? = some (ns.foldl max n) := List.max?_cons'
  obtain ⟨member, isBound⟩ := List.max?_eq_some_iff.1 isMax
  exact ⟨member, fun k => isBound k⟩

def widthOf (rows : List Row) (column : Column) : Nat :=
  width column.label.toList (rows.map (textAt · column))

theorem isWidth_widthOf (rows : List Row) (column : Column) :
    IsWidth rows column (widthOf rows column) := by
  have areLengths : {n | ∃ text ∈ textsOf rows column, n = text.length} =
      {n | n ∈ (textsOf rows column).map List.length} := by
    ext n
    simp only [Set.mem_ofPred_eq, List.mem_map, eq_comm]
  refine ⟨_, ?_, Nat.min_comm _ _⟩
  rw [areLengths]
  exact isGreatest_foldl_max _ _

theorem IsWidth.room (isWidth : IsWidth rows column w) {text : List Char}
    (member : text ∈ textsOf rows column) : 0 < w ∨ text = [] := by
  obtain ⟨longest, ⟨-, isBound⟩, rfl⟩ := isWidth
  have notLonger : text.length ≤ longest := isBound ⟨text, member, rfl⟩
  rw [← List.length_eq_zero_iff]
  omega

theorem widths_eq (columns : List Column) (rows : List Row) :
    widths (Export.header columns) (rows.map (Export.record columns)) =
      columns.map (widthOf rows) := by
  rw [widths, List.mapIdx_eq_iff]
  intro i
  rw [Export.header, List.getElem?_map, List.getElem?_map]
  cases isColumn : columns[i]? with
  | none => rfl
  | some column =>
    have areTexts : textsAt i (rows.map (Export.record columns)) =
        rows.map (textAt · column) := by
      rw [textsAt, List.map_map]
      refine List.map_congr_left fun row _ => ?_
      rw [Function.comp_apply, Export.record, List.getElem?_map, isColumn]
      rfl
    rw [Option.map_some, Option.map_some, Option.map_some, areTexts, widthOf]

/-! ## Tables -/

theorem lines_eq (nonempty : rows ≠ []) (columns : List Column) :
    lines columns rows =
      line (columns.map (widthOf rows)) (columns.map (·.label.toList)) ::
        ruler (columns.map (widthOf rows)) ::
        rows.map fun row => line (columns.map (widthOf rows)) (columns.map (textAt row)) := by
  obtain ⟨first, rest, rfl⟩ := List.exists_cons_of_ne_nil nonempty
  rw [lines, linesOf, widths_eq, List.map_map]
  · rfl
  · exact nonempty

theorem isLine_widthOf (text : Column → List Char)
    (stand : ∀ column ∈ columns, text column ∈ textsOf rows column) :
    IsLine (columns.map (widthOf rows)) (columns.map text)
      (line (columns.map (widthOf rows)) (columns.map text)) := by
  apply isLine_line
  rw [List.forall₂_map_left_iff, List.forall₂_map_right_iff, List.forall₂_same]
  exact fun column member => (isWidth_widthOf rows column).room (stand column member)

/-- Whatever texts stand in a table, its lines are all as long as the columns and the gaps between
    them. -/
theorem isTable_lines (nonempty : rows ≠ []) (columns : List Column) :
    ∃ ws, IsTable columns rows ws (lines columns rows) := by
  have labels : IsLine (columns.map (widthOf rows)) (columns.map (·.label.toList))
      (line (columns.map (widthOf rows)) (columns.map (·.label.toList))) :=
    isLine_widthOf _ fun column _ => List.mem_cons_self
  have body : ∀ row ∈ rows, IsLine (columns.map (widthOf rows)) (columns.map (textAt row))
      (line (columns.map (widthOf rows)) (columns.map (textAt row))) := by
    intro row isRow
    apply isLine_widthOf (textAt row)
    exact fun column _ => List.mem_cons_of_mem _ (List.mem_map_of_mem isRow)
  refine ⟨columns.map (widthOf rows), ?areWidths, ?areLines, ?length_eq⟩
  case areWidths =>
    rw [List.forall₂_map_right_iff, List.forall₂_same]
    exact fun column _ => isWidth_widthOf rows column
  case areLines =>
    refine ⟨_, _, ?_, labels, List.forall₂_map_right_iff.2 (List.forall₂_same.2 body)⟩
    rw [lines_eq nonempty, ruler, joinWith_eq_intercalate]
  case length_eq =>
    rw [lines_eq nonempty, ← List.length_map (f := widthOf rows), List.forall_mem_cons,
      List.forall_mem_cons, List.forall_mem_map]
    exact ⟨labels.length_eq, length_ruler _, fun row isRow => (body row isRow).length_eq⟩

/-- A label that is cut short, one that fills its column to the limit, a column without width, and
    characters of several bytes. -/
theorem isTable_lines_guests :
    let columns : List Column := [⟨"name", .string, "The name of the guest and host", []⟩,
      ⟨"note", .string, "Twenty-four characters..", []⟩, ⟨"x", .string, "", []⟩,
      ⟨"city", .string, "City", []⟩]
    let rows : List Row := [.ofList [("name", .text "Zoë"), ("x", .null), ("city", .text "Łódź")],
      .ofList [("note", .bool true), ("city", .text "Zürich")]]
    rows ≠ [] ∧ (∃ ws, IsTable columns rows ws (lines columns rows)) ∧
      (lines columns rows).map String.ofList = [
        "The name of the guest a… | Twenty-four characters.. |  | City  ",
        "-------------------------+--------------------------+--+-------",
        "Zoë                      |                          |  | Łódź  ",
        "                         | true                     |  | Zürich"] := by
  intro columns rows
  exact ⟨List.cons_ne_nil _ _, isTable_lines (List.cons_ne_nil _ _) columns, by decide +kernel⟩

end TableQuery.Grid
