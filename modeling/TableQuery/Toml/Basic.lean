import TableQuery.Assoc

/-! # Configuration data

The values of TOML documents. Tables remember how they came about, since that decides
whether a later line may add to them. Decimals and moments are only told apart from other
values; nothing asks for their contents.
-/

namespace TableQuery

/-- How a table came about. -/
inductive TableForm where
  | header
  /-- On the way to the table of a header. -/
  | implied
  /-- By a key with dots. -/
  | dotted
  | inline
deriving DecidableEq, Repr, Inhabited

inductive Toml where
  | str (value : String)
  | int (value : Int)
  | float
  | bool (value : Bool)
  | moment
  | arr (items : List Toml)
  | table (form : TableForm) (entries : List (String × Toml))
  /-- Tables under one key, each with a header. -/
  | tables (items : List (List (String × Toml)))

namespace Toml

abbrev Entries := List (String × Toml)

def changeLast? {α : Type} (f : α → Option α) : List α → Option (List α)
  | [] => none
  | [a] => (f a).map ([·])
  | a :: rest => (changeLast? f rest).map (a :: ·)

/-- Change the table that a path leads to. Tables that are missing on the way are made; a
    key with dots makes no way through the table of a header, and nothing leads through a
    value. -/
def changeAt? (byDots : Bool) (change : TableForm → Entries → Option Entries) :
    List String → TableForm → Entries → Option Entries
  | [], form, entries => change form entries
  | key :: path, _, entries =>
    let fresh : TableForm := if byDots then .dotted else .implied
    match Assoc.get? key entries with
    | none =>
      (changeAt? byDots change path fresh []).map fun es =>
        Assoc.insert key (.table fresh es) entries
    | some (.table form es) =>
      if form = .inline ∨ (byDots ∧ form = .header) then none
      else (changeAt? byDots change path form es).map fun es =>
        Assoc.insert key (.table form es) entries
    | some (.tables items) =>
      (changeLast? (changeAt? byDots change path .header) items).map fun items =>
        Assoc.insert key (.tables items) entries
    | some _ => none

def addNew? (key : String) (value : Toml) (entries : Entries) : Option Entries :=
  match Assoc.get? key entries with
  | none => some (Assoc.insert key value entries)
  | some _ => none

/-- Add a value under a key with dots, the last part of which must be new. The table it
    goes into must have come about by dots itself if the key has any. -/
def addDotted? (path : List String) (key : String) (value : Toml) (form : TableForm)
    (entries : Entries) : Option Entries :=
  changeAt? true
    (fun form es => if path ≠ [] ∧ form ≠ .dotted then none else addNew? key value es)
    path form entries

end Toml

end TableQuery
