import JavaScaffold.File.Basic

/-!
# Files in a tree of directories

## Main Definitions

* `FileTree` — directories and files, each under the names that lead to it
* `FileTree.locate?` — the place that a path names
* `FileTree.filesBelow` — all the files in a directory and below it

## Design Notes

A place is given by the names from the top of the tree down to it, without `.` and `..`.  Walking
along a path needs a directory wherever it goes on, also where it goes on by `.` or `..`, and a
separator at the end of a path counts as going on by `.`.  The directory at the top is always there
and is its own parent.  Names and whole paths have a limited size, which is that of the text: steps
that go nowhere count as well.
-/

namespace JavaScaffold

/-- What is at a place. -/
inductive TreeEntry
  | directory
  | file (content : String)
  deriving Repr, DecidableEq

/-- The names that lead from the top of a tree to a place. -/
abbrev Place := List String

/-- Directories and files. -/
structure FileTree where
  entries : List (Place × TreeEntry) := []

namespace FileTree

/-- What is at a place. -/
def at? (t : FileTree) (place : Place) : Option TreeEntry :=
  if place.isEmpty then some .directory else t.entries.lookup place

/-- Whether there is a directory at a place. -/
def isDirectory (t : FileTree) (place : Place) : Bool :=
  t.at? place == some .directory

/-- The tree with something at a place. -/
def set (t : FileTree) (place : Place) (entry : TreeEntry) : FileTree :=
  ⟨(place, entry) :: t.entries.filter (·.1 != place)⟩

/-- The longest name that can be given to a file or a directory, in bytes. -/
def maxNameSize : Nat := 255

/-- Whether a file or a directory can have this name. -/
def isName (name : String) : Bool :=
  name.utf8ByteSize ≤ maxNameSize

/-- The longest path that can be given to a storage, in bytes. -/
def maxPathSize : Nat := 4095

/-- The steps that a path takes. -/
def steps (path : String) : List String :=
  let steps := ((Text.splitAll '/' path.toList).filter (!·.isEmpty)).map String.ofList
  if path.endsWith "/" then steps ++ ["."] else steps

/-- Whether a path can be given to a storage at all. -/
def isPath (path : String) : Bool :=
  !path.isEmpty && path.utf8ByteSize ≤ maxPathSize && !path.contains '\x00'

/-- The place that some steps lead to. -/
def walk? (t : FileTree) : Place → List String → Option Place
  | place, [] => some place
  | place, step :: rest =>
    if !t.isDirectory place then none
    else if step = "." then t.walk? place rest
    else if step = ".." then t.walk? place.dropLast rest
    else if isName step then t.walk? (place ++ [step]) rest
    else none

/-- The place that a path names, whether something is there or not. -/
def locate? (t : FileTree) (path : String) : Option Place :=
  if isPath path then t.walk? [] (steps path) else none

/-- What a path names. -/
def find? (t : FileTree) (path : String) : Option TreeEntry :=
  (t.locate? path).bind t.at?

/-- The tree with a directory wherever the steps go, and whether nothing stands in their way. -/
def makeAll (t : FileTree) : Place → List String → FileTree × Bool
  | _, [] => (t, true)
  | place, step :: rest =>
    if step = "." then t.makeAll place rest
    else if step = ".." then t.makeAll place.dropLast rest
    else if isName step then
      match t.at? (place ++ [step]) with
      | some .directory => t.makeAll (place ++ [step]) rest
      | some (.file _) => (t, false)
      | none => (t.set (place ++ [step]) .directory).makeAll (place ++ [step]) rest
    else (t, false)

/-- The tree with a text in the file that a path names. -/
def putFile (t : FileTree) (path content : String) : FileTree × Bool :=
  match t.locate? path with
  | none => (t, false)
  | some place =>
    if t.isDirectory place then (t, false) else (t.set place (.file content), true)

instance : Storage FileTree where
  isOccupied t path := (t.find? path).isSome
  read? t path :=
    match t.find? path with
    | some (.file content) => some content
    | _ => none
  makeDirectory t path :=
    if path.isEmpty then (t, true)
    else if isPath path then t.makeAll [] (steps path)
    else (t, false)
  put := putFile

/-- A place as a path. -/
def pathText (place : Place) : String :=
  "/".intercalate place

/-- The files in a directory and below it, in ascending order of their paths. -/
def filesBelow (t : FileTree) (directory : Place) : List (String × String) :=
  (t.entries.filterMap fun (place, entry) =>
    match entry with
    | .file content =>
      if directory.isPrefixOf place then some (pathText place, content) else none
    | .directory => none).mergeSort fun a b => a.1 ≤ b.1

end FileTree

end JavaScaffold
