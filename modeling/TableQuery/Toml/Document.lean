import TableQuery.Toml.Value

/-! # Reading configurations

A configuration is a sequence of lines: headers that say which table follows, keys with
values, comments and empty lines. No key is given twice, no table has two headers, and
neither a header nor a key with dots reaches into a value.
-/

namespace TableQuery.Toml

/-- The tables so far, and the one that is being read. -/
structure Draft where
  root : Entries
  /-- Where the table that is being read goes; the document's own entries go nowhere. -/
  path : Option (List String × String)
  /-- Is it one of several tables under its key? -/
  repeated : Bool
  current : Entries

/-- Put the table that has been read into its place. -/
def Draft.finish? (d : Draft) : Option Entries :=
  match d.path with
  | none => some d.current
  | some (path, key) =>
    changeAt? false (fun _ es =>
      match d.repeated, Assoc.get? key es with
      | true, none => some (Assoc.insert key (.tables [d.current]) es)
      | true, some (.tables items) =>
        some (Assoc.insert key (.tables (items ++ [d.current])) es)
      | true, some _ => none
      | false, none => some (Assoc.insert key (.table .header d.current) es)
      | false, some (.table .implied _) =>
        some (Assoc.insert key (.table .header d.current) es)
      | false, some _ => none) path .header d.root

def look? (path : List String) (key : String) (root : Entries) :
    Option (Entries × Option Toml) :=
  match changeAt? false (fun _ es => some es) path .header root with
  | none => none
  | some root => (found path root).map fun v => (root, v)
where
  /-- The value at the end of the way. -/
  found : List String → Entries → Option (Option Toml)
    | [], es => some (Assoc.get? key es)
    | k :: rest, es =>
      match Assoc.get? k es with
      | some (.table _ inner) => found rest inner
      | some (.tables items) => (items.getLast?).bind (found rest)
      | _ => none

def remove? (path : List String) (key : String) (root : Entries) : Option Entries :=
  changeAt? false (fun _ es => some (Assoc.erase key es)) path .header root

def Draft.header? (d : Draft) (repeated : Bool) (path : List String) (key : String) :
    Option Draft :=
  match d.finish? with
  | none => none
  | some root =>
    match look? path key root with
    | none => none
    | some (root, old) =>
      match repeated, old with
      | true, none => some ⟨root, some (path, key), true, []⟩
      | true, some (.tables _) => some ⟨root, some (path, key), true, []⟩
      | true, some _ => none
      | false, none => some ⟨root, some (path, key), false, []⟩
      -- A table that only a longer header has named so far may still get its own header.
      | false, some (.table .implied es) =>
        (remove? path key root).map fun root => ⟨root, some (path, key), false, es⟩
      | false, some _ => none

def Draft.add? (d : Draft) (path : List String) (key : String) (v : Toml) : Option Draft :=
  (addDotted? path key v .header d.current).map fun es => { d with current := es }

def orFail {α : Type} : Option α → Reader α
  | some a => return a
  | none => fail

/-- The end of a line: blanks, a comment, and a line end or the end of the text. -/
def lineEnd : Reader Unit := do
  blanks
  comment
  match ← get with
  | [] => return
  | s => match afterLineEnd? s with
    | some rest => set rest
    | none => fail

/-- A header or a key with its value. -/
def entry (d : Draft) : Reader Draft := do
  let s ← get
  match s with
  | '[' :: '[' :: _ =>
    skip 2
    let (path, k) ← key
    expect [']', ']']
    orFail (d.header? true path k)
  | '[' :: _ =>
    skip 1
    let (path, k) ← key
    expect [']']
    orFail (d.header? false path k)
  | _ =>
    let (path, k) ← key
    expect ['=']
    blanks
    let v ← value (2 * s.length + 2) 0
    orFail (d.add? path k v)

def lines : Nat → Draft → Reader Draft
  | 0, _ => fail
  | fuel + 1, d => do
    gap (← get).length
    if (← get).isEmpty then return d
    let d ← entry d
    lineEnd
    lines fuel d

def withoutMark : List Char → List Char
  | '\ufeff' :: rest => rest
  | s => s

def ofText? (s : String) : Option Entries :=
  let cs := withoutMark s.toList
  match (lines (cs.length + 1) ⟨[], none, false, []⟩).run cs with
  | some (d, _) => d.finish?
  | none => none

end TableQuery.Toml
