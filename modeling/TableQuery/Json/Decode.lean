import TableQuery.Json.Reader
import TableQuery.Json.Printer

/-! # Decoding records

Records are read from objects, whose members may stand in any order and of which unknown
ones are ignored, or from arrays that give the fields in order and may leave out the
last ones. A known field that is given twice is refused.
-/

namespace TableQuery.Json

/-- The values of an object under a name. -/
def valuesOf (name : String) (members : List (String × Json)) : List Json :=
  (members.filter (·.1 = name)).map Prod.snd

def single? : List Json → Option (Option Json)
  | [] => some none
  | [v] => some (some v)
  | _ => none

/-- The values of an array for so many fields, which it may leave out at the end. -/
def positional? : Nat → List Json → Option (List (Option Json))
  | 0, [] => some []
  | 0, _ => none
  | n + 1, [] => (positional? n []).map (none :: ·)
  | n + 1, v :: rest => (positional? n rest).map (some v :: ·)

def fields? (names : List String) : Json → Option (List (Option Json))
  | .obj members => names.mapM fun name => single? (valuesOf name members)
  | .arr items => positional? names.length items
  | _ => none

/-- The value of a field that must be given. -/
def required? {α : Type} (decode : Json → Option α) : Option Json → Option α
  | some v => decode v
  | none => none

def orDefault? {α : Type} (decode : Json → Option α) (default : α) : Option Json → Option α
  | some v => decode v
  | none => some default

def nullable? {α : Type} (decode : Json → Option α) : Option Json → Option (Option α)
  | some .null => some none
  | some v => (decode v).map some
  | none => some none

def str? : Json → Option String
  | .str s => some s
  | _ => none

def bool? : Json → Option Bool
  | .bool b => some b
  | _ => none

/-- A whole number below `2^64`. -/
def word? : Json → Option Nat
  | .int n => if 0 ≤ n ∧ n < UInt64.size then some n.toNat else none
  | _ => none

def list? {α : Type} (decode : Json → Option α) : Json → Option (List α)
  | .arr items => items.mapM decode
  | _ => none

/-- One of some names: a text, or an object that gives the name the value null. -/
def choice? {α : Type} (names : List (String × α)) : Json → Option α
  | .str s => names.lookup s
  | .obj [(s, .null)] => names.lookup s
  | _ => none

/-- A member that is left out if there is no value. -/
def memberIf (name : String) : Option Json → List (String × Json)
  | some v => [(name, v)]
  | none => []

def orNull : Option Json → Json
  | some v => v
  | none => .null

end TableQuery.Json
