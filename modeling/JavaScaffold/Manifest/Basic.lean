import JavaScaffold.Manifest.Schema
import JavaScaffold.Manifest.Units
import JavaScaffold.Render.Unit
import JavaScaffold.Toml.Document
import JavaScaffold.Toml.Sound

/-!
# Manifests

A manifest describes compilation units and says where their files go.

## Main Definitions

* `Manifest` — an accepted manifest
* `Manifest.parse`, `Manifest.load` — the manifest in a text, or in a file
* `Manifest.unit?` — the unit that declares a type
* `Manifest.preview` — the files of all units
* `Manifest.generate` — the same files, written

## Design Notes

`preview` and `generate` use one list of sources, so what is written is what has been shown.
-/

namespace JavaScaffold

/-- An accepted manifest. -/
structure Manifest where
  output : OutputPlan
  /-- The units, in the order of the manifest. -/
  units : List CompilationUnit

/-- The manifest of a plan, or all the problems in it. -/
def ManifestPlan.accept (m : ManifestPlan) (site : PlanSite) : Except ManifestError Manifest :=
  match m.build site with
  | .fine units => .ok { output := m.output, units := units }
  | .flawed first others => .error (.ofDiagnostics first others)

/-- Why a file of a manifest has not been written. -/
structure GenerateError where
  /-- The type that the file declares. -/
  type : String
  cause : WriteError
  deriving Repr, DecidableEq

/-- The wording of a generate error, the most general statement first. -/
def GenerateError.messages (e : GenerateError) : List String :=
  ["failed to generate " ++ e.type, e.cause.message]

/-- A unit with the settings that its file is written with. -/
structure UnitSource where
  unit : CompilationUnit
  indent : Indent := .standard
  overwrite : OverwriteRule := .always

namespace UnitSource

/-- The path of the file below the directory `base`: the package, then the declared type. -/
def path (base : String) (s : UnitSource) : String :=
  Path.join (Path.join base (Path.ofPackage s.unit.package)) (s.unit.decl.type.name ++ ".java")

/-- The file below the directory `base`. -/
def file (base : String) (s : UnitSource) : File :=
  { path := s.path base, content := s.unit.render s.indent, overwrite := s.overwrite }

end UnitSource

namespace Manifest

/-- Why a document of the wrong form is refused.  An unsound document is refused without a cause,
like a text that is no document. -/
def refusal (file : String) (entries : Toml.Entries) (cause : SchemaError) : ManifestError :=
  .malformed file (if Toml.entriesAreSound entries then some cause else none)

/-- The manifest in the text `source`, which is called `file` in messages.  An unsound value
matters only where it is asked for. -/
def parse (source file : String) : Except ManifestError Manifest :=
  match Toml.parse source with
  | none => .error (.malformed file none)
  | some entries =>
    match Schema.manifest entries with
    | .error cause => .error (refusal file entries cause)
    | .ok plan => plan.accept { source := source, file := file }

/-- The name of a manifest without a name of its own. -/
def defaultFile : String := "jgen.toml"

/-- The manifest in a file. -/
def load {σ : Type} [Storage σ] (disk : σ) (path : String) : Except ManifestError Manifest :=
  match Storage.read? disk path with
  | some source => parse source path
  | none => .error (.unreadable path)

/-- The unit that declares the type with a full name. -/
def unit? (m : Manifest) (name : String) : Option CompilationUnit :=
  m.units.find? (·.decl.type.qualifiedName == name)

/-- The units with the settings that their files are written with. -/
def sources (m : Manifest) : List UnitSource :=
  m.units.map fun u => { unit := u, indent := m.output.indent, overwrite := m.output.overwrite }

/-- The directory for the files of a manifest in the directory `root`. -/
def directory (m : Manifest) (root : String) : String :=
  Path.join root m.output.directory

/-- The files of a manifest in the directory `root`. -/
def preview (m : Manifest) (root : String) : List File :=
  m.sources.map (·.file (m.directory root))

/-- Writes the files of some sources below the directory `base`, up to the first failure, and gives
what became of each of them. -/
def writeAll {σ : Type} [Storage σ] (base : String) :
    List UnitSource → σ → σ × Except GenerateError (List (String × WriteOutcome))
  | [], disk => (disk, .ok [])
  | s :: rest, disk =>
    match (s.file base).write disk with
    | (disk, .error cause) => (disk, .error { type := s.unit.decl.type.fullName, cause := cause })
    | (disk, .ok outcome) =>
      match writeAll base rest disk with
      | (disk, .error e) => (disk, .error e)
      | (disk, .ok outcomes) => (disk, .ok ((s.path base, outcome) :: outcomes))

/-- Writes the files of a manifest in the directory `root`. -/
def generate {σ : Type} [Storage σ] (m : Manifest) (root : String) (disk : σ) :
    σ × Except GenerateError (List (String × WriteOutcome)) :=
  writeAll (m.directory root) m.sources disk

end Manifest

end JavaScaffold
