import TableQuery.Row
import TableQuery.Text.Word

/-! # Templates

A template is a text with placeholders: the key of a column between two pairs of braces.
Filling it with a row puts the text of the cell in the place of each placeholder whose
key the row has. What was put in is not looked at again.
-/

namespace TableQuery.Template

def placeholder? : List Char → Option (List Char)
  | '\x7b' :: '\x7b' :: rest =>
    let key := rest.takeWhile Text.isWordChar
    match rest.dropWhile Text.isWordChar with
    | '\x7d' :: '\x7d' :: _ => if key.isEmpty then none else some key
    | _ => none
  | _ => none

def written (key : List Char) : List Char := '\x7b' :: '\x7b' :: (key ++ ['\x7d', '\x7d'])

/-- What a placeholder becomes: the text of the cell, or itself if there is none. -/
def replacement (row : Row) (key : List Char) : List Char :=
  match row.get? (String.ofList key) with
  | some cell => cell.display.toList
  | none => written key

/-- Fill a template of which the first `passed` characters are already dealt with. -/
def fillFrom (row : Row) : Nat → List Char → List Char
  | _, [] => []
  | passed + 1, _ :: rest => fillFrom row passed rest
  | 0, c :: rest =>
    match placeholder? (c :: rest) with
    | some key => replacement row key ++ fillFrom row (key.length + 3) rest
    | none => c :: fillFrom row 0 rest

def fill (row : Row) (template : String) : String :=
  String.ofList (fillFrom row 0 template.toList)

end TableQuery.Template
