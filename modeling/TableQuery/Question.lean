import TableQuery.Question.Rules

/-! # Understanding queries

A query text becomes a plan by an ordered cascade of rules. Clauses for order, limit and
columns are looked for first; only if no column is tested, a place, a state and at last
any word of the text are tried. Every rule that applies adds a phrase to the explanation.
-/

namespace TableQuery.Question

def greatestLimit : Nat := UInt64.size - 1

/-- The number of rows that digits ask for. Numbers that are too great, or not written in
    ASCII digits, ask for the greatest number. -/
def limitOf (digits : List Char) : Nat :=
  if digits.all Char.isDigit then min (Numeral.natOfDigits digits) greatestLimit
  else greatestLimit

def describe (label : String) (operator : Operator) (literal : String) : String :=
  match operator with
  | .equals => label ++ " = \"" ++ literal ++ "\""
  | .gt => label ++ " > " ++ literal
  | .lt => label ++ " < " ++ literal
  | .gte => label ++ " >= " ++ literal
  | .lte => label ++ " <= " ++ literal
  | other => label ++ " " ++ other.name ++ " \"" ++ literal ++ "\""

structure Span where
  start : Nat
  stop : Nat
deriving DecidableEq, Repr

def inSpans (spans : List Span) (i : Nat) : Bool :=
  spans.any fun s => s.start ≤ i && i < s.stop

/-- The text from position `i` on, with blanks in place of the bytes of the spans. -/
def blankFrom (spans : List Span) (i : Nat) : List Char → List Char
  | [] => []
  | c :: rest =>
    (if inSpans spans i then List.replicate c.utf8Size ' ' else [c]) ++
      blankFrom spans (i + 1) rest

/-- The text with blanks in place of the bytes of the spans. -/
def blankOut (spans : List Span) (s : List Char) : List Char := blankFrom spans 0 s

/-- The last word of at least three characters that is searched for. -/
def searchTerm? (s : List Char) : Option (List Char) :=
  ((Text.words s).filter fun w =>
    !stopWords.contains (String.ofList w) && 2 < w.length).getLast?

structure Clause (α : Type) where
  span : Span
  value : α
  phrase : String

def sortOf? (schema : Schema) (s : List Char) : Option (Clause SortKey) :=
  match Pattern.find? sortClause s with
  | none => none
  | some found =>
    match schema.column? (String.ofList ((found.pieces.get? 1).getD [])) with
    | none => none
    | some column =>
      let order := (((found.pieces.get? 2).map String.ofList).bind SortOrder.ofText?).getD .asc
      some ⟨⟨found.start, found.stop⟩, ⟨column.key, order⟩,
        "Sorted by " ++ column.label ++ " (" ++ order.name ++ ")"⟩

def limitOf? (s : List Char) : Option (Clause Nat) :=
  (Pattern.find? limitClause s).map fun found =>
    let n := limitOf ((found.pieces.get? 1).getD [])
    ⟨⟨found.start, found.stop⟩, n, "Top " ++ toString n ++ " results"⟩

structure Explained where
  condition : Condition
  phrase : String

/-- The value that a captured text becomes, if it is one. -/
def Capture.value? : Capture → List Char → Option Cell
  | .text, s => some (.text (String.ofList s))
  | .number, s => (Numeral.decimal? s).map .number

/-- The condition of a clause for a column, if the clause stands in the text. -/
def ruleCondition? (column : Column) (names : Pattern) (s : List Char) (rule : ColumnRule) :
    Option Explained :=
  match Pattern.find? (rule.pattern names) s with
  | none => none
  | some found =>
    let literal := Text.trim ((found.pieces.get? 1).getD [])
    (rule.capture.value? literal).map fun value =>
      ⟨⟨column.key, rule.operator, .scalar value⟩,
        describe column.label rule.operator (String.ofList literal)⟩

/-- The condition on a column: that of the first clause that gives one. No clause is passed
    over because the names of the column are too long for it. -/
def columnCondition? (s : List Char) (column : Column) : Option Explained :=
  match namePattern? column with
  | none => none
  | some names => columnRules.findSome? (ruleCondition? column names s)

/-- The first column whose key in lower case is one of these. -/
def columnWithKey? (schema : Schema) (keys : List String) : Option Column :=
  schema.columns.find? fun c => keys.contains (Text.lowered c.key)

def placeCondition? (schema : Schema) (s : List Char) : Option Explained :=
  match Pattern.find? placeClause s, columnWithKey? schema placeKeys with
  | some found, some column =>
    let place := String.ofList (Text.trim ((found.pieces.get? 1).getD []))
    some ⟨⟨column.key, .contains, .scalar (.text place)⟩,
      describe column.label .contains place⟩
  | _, _ => none

def statusCondition? (schema : Schema) (s : List Char) : Option Explained :=
  match statusWords.find? (fun w => Text.occursIn w.toList s), columnWithKey? schema statusKeys with
  | some word, some column =>
    some ⟨⟨column.key, .equals, .scalar (.text word)⟩, describe column.label .equals word⟩
  | _, _ => none

/-- Where the conditions of a plan come from. -/
inductive Source where
  | clauses (conditions : List Explained)
  /-- A word that is looked for in the given columns. -/
  | search (term : String) (columns : List Column)

namespace Source

def conditions : Source → List Condition
  | .clauses es => es.map (·.condition)
  | .search term columns => columns.map fun c => ⟨c.key, .contains, .scalar (.text term)⟩

def phrases : Source → List String
  | .clauses es => es.map (·.phrase)
  | .search term _ => ["Searching for \"" ++ term ++ "\""]

/-- How the conditions are combined for a text in lower case. -/
def junction (s : List Char) : Source → Junction
  | .clauses es =>
    if 1 < es.length && Text.occursIn [' ', 'o', 'r', ' '] s then .any else .all
  | .search _ _ => .any

end Source

def searchSource (schema : Schema) (remaining : List Char) : Source :=
  match searchTerm? remaining, schema.columnsOfType .string with
  | some term, c :: cs => .search (String.ofList term) (c :: cs)
  | _, _ => .clauses []

/-- The conditions of a text in lower case of which some spans are already understood. -/
def sourceOf (schema : Schema) (s : List Char) (spans : List Span) : Source :=
  match schema.columns.filterMap (columnCondition? s) with
  | e :: es => .clauses (e :: es)
  | [] =>
    match placeCondition? schema s with
    | some e => .clauses [e]
    | none =>
      match statusCondition? schema s with
      | some e => .clauses [e]
      | none => searchSource schema (blankOut spans s)

def plan (schema : Schema) (query : String) : Plan :=
  let s := Text.lower query.toList
  let sort := sortOf? schema s
  let limit := limitOf? s
  -- The words of these clauses are not searched for.
  let spans := (sort.map (·.span)).toList ++ (limit.map (·.span)).toList
  let source := sourceOf schema s spans
  let conditions := source.conditions
  let phrases := (sort.map (·.phrase)).toList ++ (limit.map (·.phrase)).toList ++ source.phrases
  { query := query
    filter := if conditions.isEmpty then none else some ⟨conditions, source.junction s⟩
    sort := sort.map (·.value)
    limit := limit.map (·.value)
    explanation :=
      if phrases.isEmpty then Plan.showAllExplanation else String.intercalate ", " phrases }

end TableQuery.Question
