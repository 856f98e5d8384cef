import Tabular.Error
import Tabular.Table

set_option autoImplicit false

/-! # Files

The files that the program works on are a value: a directory in which it runs, with the entries
that are in it. Reading looks a path up; making a directory or writing a file gives new files.
Directories above the working directory are there but show nothing.

A path is a text of names separated by `/`. Empty names and `.` stay where they are and `..`
goes up.
-/

namespace Tabular

/-! ## Paths -/

namespace Path

/-- What stands between the separators of a path. -/
def split (path : String) : List String := (path.toList.splitOn '/').map String.ofList

/-- The names of a path that lead somewhere. -/
def names (path : String) : List String :=
  (split path).filter fun name => name ≠ "" && name ≠ "."

/-- The last name of a path, if it names a file. -/
def fileName? (path : String) : Option String :=
  match (names path).getLast? with
  | some ".." | none => none
  | some name => some name

/-- What follows the last point of a name that does not start there. -/
def extensionOf? (name : List Char) : Option (List Char) :=
  match name.reverse.span (· ≠ '.') with
  | (_, []) | (_, [_]) => none
  | (after, _ :: _) => some after.reverse

/-- The extension of the file that a path names. -/
def extension? (path : String) : Option String := do
  let name ← fileName? path
  (extensionOf? name.toList).map String.ofList

end Path

/-! ## Entries -/

/-- What a name stands for. -/
inductive Entry where
  | directory
  | file (content : ByteArray)

/-- Two files are the same when their bytes are. -/
instance : DecidableEq Entry
  | .directory, .directory => .isTrue rfl
  | .directory, .file _ | .file _, .directory => .isFalse nofun
  | .file a, .file b =>
    decidable_of_iff (a.data = b.data) ⟨fun h => congrArg Entry.file (ByteArray.ext h), fun h => by
      injection h with h; rw [h]⟩

/-- The entries by their place in the working directory, the names joined by `/`. -/
structure Files where
  entries : List (String × Entry)
deriving DecidableEq

namespace Files

def empty : Files := ⟨[]⟩

/-- A place relative to the working directory: names, after any number of `..`, or after the root
`/`. -/
abbrev Place := List String

def entry? (f : Files) (place : Place) : Option Entry :=
  if place.all (· = "..") ∨ place = ["/"] then some .directory
  else f.entries.lookup ("/".intercalate place)

def above (place : Place) : Place :=
  if place = ["/"] then place
  else if place.all (· = "..") then ".." :: place
  else place.dropLast

/-- Follows names from a place; all but the last have to be directories. -/
def follow (f : Files) (place : Place) : List String → Except FileFault Place
  | [] => .ok place
  | name :: rest => match f.entry? place with
    | none => .error .notFound
    | some (.file _) => .error .notADirectory
    | some .directory =>
      if name = "" ∨ name = "." then f.follow place rest
      else if name = ".." then f.follow (above place) rest
      else f.follow (place ++ [name]) rest

/-- The place of a path. -/
def place? (f : Files) (path : String) : Except FileFault Place :=
  match Path.split path with
  | [""] => .error .notFound
  | "" :: rest => f.follow ["/"] rest
  | names => f.follow [] names

def has (f : Files) (path : String) : Bool :=
  match f.place? path with
  | .ok place => (f.entry? place).isSome
  | .error _ => false

def read (f : Files) (path : String) : Except FileFault ByteArray := do
  match f.entry? (← f.place? path) with
  | none => .error .notFound
  | some .directory => .error .isADirectory
  | some (.file content) => .ok content

def put (f : Files) (place : Place) (entry : Entry) : Files :=
  ⟨putPair ("/".intercalate place) entry f.entries⟩

/-- Gives a file a new content, or makes it in a directory that is there. -/
def write (f : Files) (path : String) (content : ByteArray) : Except FileFault Files := do
  let place ← f.place? path
  match f.entry? place with
  | some .directory => .error .isADirectory
  | _ => .ok (f.put place (.file content))

def makeDirectory (f : Files) (start : Place) (names : List String) : Except FileFault Files := do
  let place ← f.follow start names
  match f.entry? place with
  | some _ => .error .alreadyExists
  | none => .ok (f.put place .directory)

/-- The names, the last one first, lead to a directory. -/
def isDirectory (f : Files) (start : Place) (names : List String) : Bool :=
  match f.follow start names with
  | .ok place => f.entry? place = some .directory
  | .error _ => false

/-- Makes the directories on the way along names, which are given the last one first. -/
def makeDirectories (f : Files) (start : Place) : (backwards : List String) → Except FileFault Files
  | [] => .ok f
  | name :: rest =>
    let names := (name :: rest).reverse
    let settle (made : Except FileFault Files) (g : Files) : Except FileFault Files :=
      match made with
      | .ok g => .ok g
      | .error fault => if g.isDirectory start names then .ok g else .error fault
    match f.makeDirectory start names with
    -- First the directories in front of it are made.
    | .error .notFound => do
      let g ← f.makeDirectories start rest
      settle (g.makeDirectory start names) g
    | made => settle made f

/-- Makes the directories that lead to the file of a path. -/
def makeParents (f : Files) (path : String) : Except FileFault Files :=
  f.makeDirectories (if path.startsWith "/" then ["/"] else []) (Path.names path).reverse.tail

def ofList (files : List (String × ByteArray)) : Files :=
  files.foldl (fun f (path, bytes) =>
    match (f.makeParents path).bind fun f => f.write path bytes with
    | .ok f => f
    | .error _ => f) empty

end Files

end Tabular
