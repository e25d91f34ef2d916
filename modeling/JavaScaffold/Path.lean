import JavaScaffold.Text.Split

/-!
# Paths

Paths are texts whose components are separated by `/`.

## Main Definitions

* `Path.join` — a path below another one
* `Path.ofPackage` — the directory of a package
* `Path.parent?` — the directory that holds what a path names

## Design Notes

`join` works on the texts alone.  It puts one separator between the two sides unless the left side
is empty or ends in one, and an absolute right side replaces the left side.  Joining the empty path
therefore closes a path with a separator.  `parent?` reads a path by components, where repeated
separators count as one and `.` counts only at the very start.
-/

namespace JavaScaffold.Path

/-- Whether `path` starts at the root of the file system. -/
def isAbsolute (path : String) : Bool :=
  path.toList.head? == some '/'

/-- The path of `path` below `base`. -/
def join (base path : String) : String :=
  if isAbsolute path then path
  else if base.isEmpty || base.toList.getLast? == some '/' then base ++ path
  else base ++ "/" ++ path

/-- The directory of the package `package`: its non-empty segments, joined from the left. -/
def ofPackage (package : String) : String :=
  (((Text.splitAll '.' package.toList).filter (!·.isEmpty)).map String.ofList).foldl join ""

/-- Drops separators, and `.` components that follow a separator, from the end of a path that is
given in reverse. -/
def dropIdleEnd : List Char → List Char
  | '/' :: rest => if rest.isEmpty then ['/'] else dropIdleEnd rest
  | '.' :: '/' :: rest => dropIdleEnd ('/' :: rest)
  | cs => cs
termination_by cs => cs.length

/-- The directory that holds what `path` names, written like the start of `path`.  The root and the
empty path have none. -/
def parent? (path : String) : Option String :=
  match dropIdleEnd path.toList.reverse with
  | [] => none
  | ['/'] => none
  | last =>
    some (String.ofList (dropIdleEnd (last.dropWhile (· != '/'))).reverse)

end JavaScaffold.Path
