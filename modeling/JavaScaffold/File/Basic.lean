import JavaScaffold.Path

/-!
# Writing files

## Main Definitions

* `OverwriteRule` — what happens to a file that is there already
* `Storage` — the operations of a place where files are kept
* `WriteError` — the two ways in which a write fails
* `File`, `File.write` — a rendered file, and how it gets into a storage

## Design Notes

What is written, and what is left alone, depends on the storage only through the four operations of
`Storage`.  So the same function runs on a tree of directories and on a plain map from paths to
texts.  An operation that fails may have changed the storage, which is why every operation gives the
storage back.
-/

namespace JavaScaffold

/-- What happens to a file that is there already. -/
inductive OverwriteRule
  /-- It is replaced. -/
  | always
  /-- It is kept. -/
  | ifMissing
  deriving Repr, DecidableEq

/-- A place where files are kept. -/
class Storage (σ : Type) where
  /-- Whether there is a file or a directory at a path. -/
  isOccupied : σ → String → Bool
  /-- The text of the file at a path. -/
  read? : σ → String → Option String
  /-- The storage with a directory at a path and with all the directories above it, and whether
  that worked. -/
  makeDirectory : σ → String → σ × Bool
  /-- The storage with a text in the file at a path, and whether that worked. -/
  put : σ → String → String → σ × Bool

/-- Why a file cannot be written. -/
inductive WriteError
  /-- Its directory cannot be made. -/
  | noDirectory (path : String)
  /-- Its text cannot be put where it belongs. -/
  | notWritten (path : String)
  deriving Repr, DecidableEq

/-- The wording of a write error. -/
def WriteError.message : WriteError → String
  | noDirectory path => "failed to create directory " ++ path
  | notWritten path => "failed to write " ++ path

/-- What became of a file. -/
inductive WriteOutcome
  | written
  /-- It was there already and has been kept. -/
  | skipped
  deriving Repr, DecidableEq

/-- A file that is ready to be written. -/
structure File where
  path : String
  content : String
  overwrite : OverwriteRule := .always
  deriving Repr, DecidableEq

namespace File

variable {σ : Type} [Storage σ]

/-- The storage with the directory that holds the file. -/
def makeParent (f : File) (disk : σ) : σ × Bool :=
  match Path.parent? f.path with
  | some parent => Storage.makeDirectory disk parent
  | none => (disk, true)

/-- The error for a file whose directory cannot be made. -/
def parentError (f : File) : WriteError :=
  .noDirectory ((Path.parent? f.path).getD "")

/-- The storage with the file in it, whatever was there. -/
def replace (f : File) (disk : σ) : σ × Except WriteError WriteOutcome :=
  match f.makeParent disk with
  | (disk, false) => (disk, .error f.parentError)
  | (disk, true) =>
    match Storage.put disk f.path f.content with
    | (disk, true) => (disk, .ok .written)
    | (disk, false) => (disk, .error (.notWritten f.path))

/-- Whether the file keeps what is there already. -/
def isKept (f : File) (disk : σ) : Bool :=
  f.overwrite == .ifMissing && Storage.isOccupied disk f.path

/-- Writes the file as its rule says. -/
def write (f : File) (disk : σ) : σ × Except WriteError WriteOutcome :=
  if f.isKept disk then (disk, .ok .skipped) else f.replace disk

end File

end JavaScaffold
