import TableQuery.Assoc
import TableQuery.Error

/-! # Files

What the program needs of a file system, in whatever monad that lives, and a folder in
memory that provides it. Paths are looked up part by part from the folder; everything
outside of it is missing.
-/

namespace TableQuery

/-- What the program needs of a file system. -/
structure Disk (m : Type → Type) where
  read : String → m (Except FileError ByteArray)
  isFolder : String → m Bool
  /-- Write a file with a text, in the place of what it holds. -/
  write : String → String → m (Except FileError Unit)
  /-- Make sure that there is a file, and leave what it holds. -/
  touch : String → m (Except FileError Unit)

abbrev Location := List (List Char)

/-- Files in memory. Folders are there as far as files are in them. -/
structure Folder where
  files : List (Location × String)
deriving Inhabited

namespace Folder

def hasFolder (f : Folder) (at_ : Location) : Bool :=
  at_.isEmpty || f.files.any fun (location, _) => at_.isPrefixOf location && at_ != location

def file? (f : Folder) (at_ : Location) : Option String := Assoc.get? at_ f.files

/-- Follow the parts of a path from a location; each of them must lead on from a folder. -/
def follow (f : Folder) (at_ : Location) : List (List Char) → Except FileError Location
  | [] => .ok at_
  | part :: rest =>
    if f.hasFolder at_ then
      if part = [] ∨ part = ['.'] then follow f at_ rest
      -- What lies above the folder is missing.
      else if part = ['.', '.'] then
        if at_.isEmpty then .error .notFound else follow f at_.dropLast rest
      else follow f (at_ ++ [part]) rest
    else if (f.file? at_).isSome then .error .notDirectory
    else .error .notFound

def locate (f : Folder) (path : String) : Except FileError Location :=
  match path.toList with
  | [] => .error .notFound
  | '/' :: _ => .error .notFound
  | cs => f.follow [] (cs.splitOn '/')

def isFolder (f : Folder) (path : String) : Bool :=
  match f.locate path with
  | .ok at_ => f.hasFolder at_
  | .error _ => false

def read (f : Folder) (path : String) : Except FileError String :=
  match f.locate path with
  | .error why => .error why
  | .ok at_ =>
    if f.hasFolder at_ then .error .isDirectory
    else match f.file? at_ with
      | some text => .ok text
      | none => .error .notFound

/-- The location at which a path names a file that can be written. The folder it lies in
    must be there, and a path that ends in a slash names no file. -/
def locateNew (f : Folder) (path : String) : Except FileError Location :=
  let cs := path.toList
  let named := cs.reverse.dropWhile (· == '/')
  match named.takeWhile (· != '/'), f.locate (String.ofList ('.' :: '/' ::
      (named.dropWhile (· != '/')).reverse)) with
  | [], _ => .error .notFound
  | _, .error why => .error why
  | name, .ok at_ =>
    if cs.head? = some '/' then .error .notFound
    else if !f.hasFolder at_ then .error .notDirectory
    else if cs.getLast? = some '/' ∨ name = ['.'] ∨ name = ['.', '.'] then .error .isDirectory
    else
      let location := at_ ++ [name.reverse]
      if f.hasFolder location then .error .isDirectory else .ok location

def write (f : Folder) (path text : String) : Except FileError Folder :=
  match f.locateNew path with
  | .error why => .error why
  | .ok location => .ok ⟨Assoc.insert location text f.files⟩

def touch (f : Folder) (path : String) : Except FileError Folder :=
  match f.locateNew path with
  | .error why => .error why
  | .ok location => .ok ⟨Assoc.insert location ((f.file? location).getD "") f.files⟩

def ofList (files : List (String × String)) : Folder :=
  ⟨Assoc.ofList <| files.map fun (path, text) =>
    ((path.toList.splitOn '/').filter fun part => part ≠ [] ∧ part ≠ ['.'], text)⟩

/-- The result of a change, or what went wrong and no change. -/
def changed (f : Folder) : Except FileError Folder → Except FileError Unit × Folder
  | .ok new => (.ok (), new)
  | .error why => (.error why, f)

def disk : Disk (StateM Folder) where
  read path := fun f => ((f.read path).map String.toUTF8, f)
  isFolder path := fun f => (f.isFolder path, f)
  write path text := fun f => f.changed (f.write path text)
  touch path := fun f => f.changed (f.touch path)

end Folder

end TableQuery
