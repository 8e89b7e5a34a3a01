import TableQuery.Pattern.Search
import TableQuery.Schema

/-! # The wording of queries

The patterns by which a query text is understood: clauses that sort and limit, nine
clauses that test a column, the word behind `from` or `in`, and the words for the state
of an order. Texts are matched in lower case. The clauses of a column stand in the order
in which they are tried.
-/

namespace TableQuery.Question

open Pattern

/-- A clause for the order: `sort by <column> desc`. Group 1 is the column, group 2 the
    direction. -/
def sortClause : Pattern := sequence [
  oneOf ["sort", "order"], blanks1, optional (.seq (text "by") blanks1),
  .group 1 (many1 (.one .word)),
  optional (.seq blanks1 (.group 2 (oneOf ["asc", "desc"])))]

/-- A clause for the number of rows: `top <number>`. Group 1 is the number. -/
def limitClause : Pattern := sequence [
  oneOf ["top", "first", "limit"], blanks, .group 1 (many1 (.one .digit))]

def placeLetter : CharSet := .folded (.range 97 122)

def caselessText (s : String) : Pattern :=
  sequence (s.toList.map fun c => .one (.folded (.single c)))

/-- A clause for a place: `from <place>`. Group 1 is the place. -/
def placeClause : Pattern := sequence [
  .alt (caselessText "from") (caselessText "in"), blanks1,
  .group 1 (many1 (.one placeLetter))]

def placeKeys : List String := ["country", "location", "region", "city", "state"]

def statusKeys : List String := ["status", "state", "order_status", "orderstatus"]

/-- The words for the state of an order, in the order in which they are tried. -/
def statusWords : List String :=
  ["completed", "pending", "shipped", "cancelled", "active", "inactive", "approved", "rejected"]

def stopWords : List String :=
  ["show", "find", "get", "list", "all", "the", "with", "where", "and", "or", "orders", "items",
    "data", "records", "me", "please", "can", "you"]

/-- What the captured text of a clause becomes. -/
inductive Capture where
  | text
  | number
deriving DecidableEq, Repr

/-- A clause that tests a column, made from the names of the column. Group 1 is the value. -/
structure ColumnRule where
  pattern : Pattern → Pattern
  operator : Operator
  capture : Capture

def quote : Pattern := optional (.one (CharSet.ofList ['"', '\'']))

/-- A phrase, as short as it can be, up to a blank, a comma, a full stop or the end. -/
def phrase : Pattern := sequence [
  quote, .group 1 (few1 (.one (.union .word .blank))), quote,
  choice [blank, .edge .textEnd, text ",", text "."]]

def numeral : Pattern :=
  .group 1 (.seq (many1 (.one .digit)) (optional (.seq (text ".") (many1 (.one .digit)))))

/-- A clause such as `<column> is <phrase>`. -/
def phraseRule (operator : Operator) (link : List Pattern) : ColumnRule where
  pattern := fun column => sequence ([column, blanks1] ++ link ++ [phrase])
  operator := operator
  capture := .text

def numberRule (operator : Operator) (words : List String) : ColumnRule where
  pattern := fun column => sequence [column, blanks, oneOf words, blanks, numeral]
  operator := operator
  capture := .number

def shortable (stem last : String) : Pattern := .seq (text stem) (optional (text last))

/-- The clauses that test a column, in the order in which they are tried. -/
def columnRules : List ColumnRule := [
  phraseRule .contains
    [oneOf ["named", "called", "as"], blanks1, optional (.seq (text "as") blanks1)],
  phraseRule .equals
    [choice [text "is", shortable "equal" "s", text "=", text "=="], blanks1],
  phraseRule .contains
    [choice [shortable "contain" "s", text "like", text "has", shortable "include" "s"], blanks1],
  { pattern := fun column => sequence
      [oneOf ["find", "show", "get", "search"], blanks1, column, blanks1, phrase]
    operator := .contains
    capture := .text },
  { pattern := fun column => sequence
      [optional (.seq (text "where") blanks1), column, blanks, oneOf ["=", "=="], blanks,
        quote, .group 1 (many1 (.one .word)), quote]
    operator := .equals
    capture := .text },
  numberRule .gt [">", "greater than", "more than", "above"],
  numberRule .lt ["<", "less than", "below", "under"],
  numberRule .gte [">=", "at least", "minimum"],
  numberRule .lte ["<=", "at most", "maximum"]]

/-- The names of a column in lower case: its key and its label, each once, none empty. -/
def columnNames (c : Column) : List (List Char) :=
  let key := Text.lower c.key.toList
  let label := Text.lower c.label.toList
  ([key] ++ (if label = key then [] else [label])).filter (· ≠ [])

/-- The pattern of the names of a column, if it has any. It has no limit of size, unlike the
    patterns that conditions hold: a matcher that refuses patterns of more than
    `Pattern.sizeLimit` bytes would pass over the clauses for a name that long. -/
def namePattern? (c : Column) : Option Pattern :=
  match columnNames c with
  | [] => none
  | names => some (choice (names.map literal))

end TableQuery.Question
