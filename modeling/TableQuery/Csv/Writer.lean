/-! # Writing comma-separated text

A field is quoted when it holds a comma, a quote or a line end; quotes inside it are
written twice. A record that would leave no character behind is written as two quotes.
Records are joined by line feeds, without one at the end.
-/

namespace TableQuery.Csv

def needsQuotes (c : Char) : Bool := c == ',' || c == '"' || c == '\n' || c == '\r'

/-- A quote is written twice and every other character once. -/
def doubleQuotes (s : List Char) : List Char :=
  s.flatMap fun c => if c = '"' then ['"', '"'] else [c]

def renderField (s : List Char) : List Char :=
  if s.any needsQuotes then '"' :: (doubleQuotes s ++ ['"']) else s

def renderFields : List (List Char) → List Char
  | [] => []
  | [f] => renderField f
  | f :: rest => renderField f ++ ',' :: renderFields rest

def renderRecord (fields : List (List Char)) : List Char :=
  let line := renderFields fields
  if line.isEmpty then ['"', '"'] else line

def render : List (List (List Char)) → List Char
  | [] => []
  | [r] => renderRecord r
  | r :: rest => renderRecord r ++ '\n' :: render rest

end TableQuery.Csv
