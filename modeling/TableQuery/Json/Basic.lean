import TableQuery.Assoc

/-! # Structured data

The values of JSON documents. Numbers are whole numbers as they are written, or doubles.
A document that was read may give a name twice in one object; `settled` keeps the place
of the first and the value of the last.
-/

namespace TableQuery

inductive Json where
  | null
  | bool (value : Bool)
  | int (value : Int)
  | float (value : Float)
  | str (value : String)
  | arr (items : List Json)
  | obj (members : List (String × Json))

namespace Json

mutual

/-- The value with each name once in each object. -/
def settled : Json → Json
  | .arr items => .arr (settledItems items)
  | .obj members => .obj (Assoc.ofList (settledMembers members))
  | v => v

def settledItems : List Json → List Json
  | [] => []
  | v :: rest => settled v :: settledItems rest

def settledMembers : List (String × Json) → List (String × Json)
  | [] => []
  | (name, v) :: rest => (name, settled v) :: settledMembers rest

end

end Json

end TableQuery
