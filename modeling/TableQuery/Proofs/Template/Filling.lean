import TableQuery.Proofs.Text.Blank
import TableQuery.Template

/-! # Templates that are filled

A template is made of literal texts with placeholders between them.  Filling it with a row leaves
the literals as they are and puts the text of a cell in the place of each placeholder whose column
the row has.  What is put in is not looked at again, even if it looks like a placeholder.
-/

namespace TableQuery.Template

/-- A template by its parts: a literal text, and placeholders, each told by its key and with the
    literal text that stands behind it. -/
structure Parts where
  first : String
  more : List (String × String)

namespace Parts

def placeholder (key : String) : String := "\x7b\x7b" ++ key ++ "\x7d\x7d"

def text (parts : Parts) : String :=
  parts.first ++ String.join (parts.more.map fun part => placeholder part.1 ++ part.2)

/-- What stands for a placeholder: the text of the cell, or the placeholder if there is none. -/
def shown (row : Row) (key : String) : String :=
  match row.get? key with
  | some cell => cell.display
  | none => placeholder key

def filled (row : Row) (parts : Parts) : String :=
  parts.first ++ String.join (parts.more.map fun part => shown row part.1 ++ part.2)

/-- Is it a text in which no placeholder can begin? -/
def IsLiteral (s : String) : Prop := ∀ c ∈ s.toList, c ≠ '\x7b'

/-- Is it a text of word characters, at least one? -/
def IsKey (s : String) : Prop := s ≠ "" ∧ ∀ c ∈ s.toList, Text.isWordChar c = true

/-- Can the parts be told apart in the text? -/
structure WellFormed (parts : Parts) : Prop where
  first : IsLiteral parts.first
  keys : ∀ part ∈ parts.more, IsKey part.1
  literals : ∀ part ∈ parts.more, IsLiteral part.2

end Parts

open Parts

/-! ## Placeholders -/

theorem placeholder?_of_ne {c : Char} (noBrace : c ≠ '\x7b') (rest : List Char) :
    placeholder? (c :: rest) = none := by
  rw [placeholder?]
  rintro _ ⟨⟩
  exact noBrace rfl

theorem placeholder?_written {key : List Char} (nonempty : key ≠ [])
    (word : ∀ c ∈ key, Text.isWordChar c = true) (rest : List Char) :
    placeholder? (written key ++ rest) = some key := by
  -- A brace is no word character, so the key ends where the placeholder does.
  have stop : ∀ c ∈ ('\x7d' :: '\x7d' :: rest).head?, Text.isWordChar c = false := by
    rintro c ⟨⟩
    decide
  have isText : written key ++ rest =
      '\x7b' :: '\x7b' :: (key ++ '\x7d' :: '\x7d' :: rest) := by simp [written]
  rw [isText, placeholder?]
  simp only [Text.takeWhile_run word stop, Text.dropWhile_run word stop]
  rw [if_neg (by simpa using nonempty)]

theorem toList_placeholder (key : String) : (placeholder key).toList = written key.toList := by
  simp [placeholder, written]

theorem replacement_toList (row : Row) (key : String) :
    replacement row key.toList = (shown row key).toList := by
  rw [replacement, shown, String.ofList_toList]
  cases row.get? key with
  | some cell => rfl
  | none => exact (toList_placeholder key).symm

/-! ## The text of a template -/

theorem fillFrom_length (row : Row) (s rest : List Char) :
    fillFrom row s.length (s ++ rest) = fillFrom row 0 rest := by
  induction s with
  | nil => rfl
  | cons c s inductionHypothesis => exact inductionHypothesis

theorem fillFrom_literal (row : Row) {s : List Char} (literal : ∀ c ∈ s, c ≠ '\x7b')
    (rest : List Char) : fillFrom row 0 (s ++ rest) = s ++ fillFrom row 0 rest := by
  induction s with
  | nil => rfl
  | cons c s inductionHypothesis =>
    have none := placeholder?_of_ne (literal c List.mem_cons_self) (s ++ rest)
    rw [List.cons_append, fillFrom, none]
    simp only
    rw [inductionHypothesis fun d member => literal d (List.mem_cons_of_mem _ member)]
    rfl

/-- The text of a cell is put in the place of a placeholder, and what follows is filled by
    itself. -/
theorem fillFrom_placeholder (row : Row) {key : String} (isKey : IsKey key) (rest : List Char) :
    fillFrom row 0 ((placeholder key).toList ++ rest) =
      (shown row key).toList ++ fillFrom row 0 rest := by
  obtain ⟨nonempty, word⟩ := isKey
  have isFound := placeholder?_written (by simpa using nonempty) word rest
  have isCons : written key.toList ++ rest =
      '\x7b' :: ('\x7b' :: (key.toList ++ ['\x7d', '\x7d']) ++ rest) := rfl
  have isLength : key.toList.length + 3 = ('\x7b' :: (key.toList ++ ['\x7d', '\x7d'])).length := by
    simp
  rw [toList_placeholder, isCons, fillFrom, ← isCons, isFound]
  simp only
  rw [isLength, fillFrom_length, replacement_toList]

theorem fillFrom_more (row : Row) {more : List (String × String)}
    (keys : ∀ part ∈ more, IsKey part.1) (literals : ∀ part ∈ more, IsLiteral part.2) :
    fillFrom row 0 (String.join (more.map fun part => placeholder part.1 ++ part.2)).toList =
      (String.join (more.map fun part => shown row part.1 ++ part.2)).toList := by
  induction more with
  | nil => rfl
  | cons part more inductionHypothesis =>
    have later := inductionHypothesis
      (fun other member => keys other (List.mem_cons_of_mem _ member))
      (fun other member => literals other (List.mem_cons_of_mem _ member))
    simp only [String.toList_join, List.map_cons, List.flatMap_cons, String.toList_append,
      List.append_assoc] at later ⊢
    rw [fillFrom_placeholder row (keys part List.mem_cons_self),
      fillFrom_literal row (literals part List.mem_cons_self), later]

/-- A template of literal texts and placeholders is filled part by part: literals stay, and each
    placeholder gives way to the text of its cell, whatever that text is, if the row has one. -/
theorem fill_text {parts : Parts} (wellFormed : parts.WellFormed) (row : Row) :
    fill row parts.text = parts.filled row := by
  rw [fill, Parts.text, String.toList_append, fillFrom_literal row wellFormed.first,
    fillFrom_more row wellFormed.keys wellFormed.literals, ← String.toList_append,
    String.ofList_toList, Parts.filled]

/-- The first cell reads like the last placeholder, the second one is empty, and there is none for
    the last. -/
theorem fill_text_of_braces :
    let row : Row := ⟨[("name", .text "\x7b\x7bcity\x7d\x7d"), ("nom_é", .null)], by decide⟩
    let parts : Parts := ⟨"", [("name", " ("), ("nom_é", ") in "), ("city", "\x7d")]⟩
    parts.WellFormed ∧
      parts.text = "\x7b\x7bname\x7d\x7d (\x7b\x7bnom_é\x7d\x7d) in \x7b\x7bcity\x7d\x7d\x7d" ∧
      fill row parts.text = "\x7b\x7bcity\x7d\x7d (null) in \x7b\x7bcity\x7d\x7d\x7d" := by
  intro row parts
  have wellFormed : parts.WellFormed := by
    constructor
    case first => unfold IsLiteral; decide
    case keys => unfold IsKey; decide +kernel
    case literals => unfold IsLiteral; decide
  exact ⟨wellFormed, by decide, (fill_text wellFormed row).trans (by decide)⟩

end TableQuery.Template
