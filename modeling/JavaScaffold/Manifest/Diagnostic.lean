import JavaScaffold.Identifier
import JavaScaffold.Manifest.SchemaError
import JavaScaffold.Text.Search
import JavaScaffold.TypeRef.Reader

/-!
# Problems in a manifest

## Main Definitions

* `TypeFlaw` — why a text is not accepted as a type
* `Fault` — what is wrong
* `Diagnostic` — a fault with its place in the source
* `ManifestError` — why a manifest is not accepted as a whole
* `ManifestError.ofDiagnostics` — one problem stands for itself, several are reported together
-/

namespace JavaScaffold

/-- Why a text is not accepted as a type. -/
inductive TypeFlaw
  /-- It is blank. -/
  | blank
  /-- It cannot be read. -/
  | unreadable (cause : SpecError)
  /-- A part of a dotted name is not formed like an identifier. -/
  | badSegment (segment : String) (flaw : Identifier.Flaw)
  /-- Something other than brackets follows the name. -/
  | trailing (text : String)
  deriving Repr, DecidableEq

/-- The wording of a flaw in a type. -/
def TypeFlaw.message : TypeFlaw → String
  | blank => "the type is empty"
  | unreadable cause => cause.message
  | badSegment segment flaw => "'" ++ segment ++ "' is not a valid name: " ++ flaw.message
  | trailing text => "unexpected '" ++ text ++ "' after the type name"

/-- What is wrong.  The `context` says what the text was written for. -/
inductive Fault
  /-- A text is not accepted as a type. -/
  | invalidType (spec context : String) (flaw : TypeFlaw)
  /-- A rule about the manifest as a whole is broken. -/
  | rule (message : String)
  /-- A name is a reserved word. -/
  | reservedWord (name context : String)
  /-- A name is not formed like an identifier. -/
  | invalidIdentifier (name context : String) (flaw : Identifier.Flaw)
  deriving Repr, DecidableEq

namespace Fault

/-- The wording of a fault. -/
def message : Fault → String
  | invalidType spec context _ => "invalid type '" ++ spec ++ "' in " ++ context
  | rule message => message
  | reservedWord name _ => "'" ++ name ++ "' is a Java reserved word"
  | invalidIdentifier name context _ => "invalid " ++ context ++ " name '" ++ name ++ "'"

/-- The stable identification of a fault. -/
def code : Fault → String
  | invalidType .. => "jgen::invalid_type"
  | rule _ => "jgen::validation_error"
  | reservedWord .. => "jgen::reserved_word"
  | invalidIdentifier .. => "jgen::invalid_identifier"

/-- What to do about a fault. -/
def help? : Fault → Option String
  | invalidType _ _ flaw =>
    some (flaw.message ++
      ". Types are written like 'java.util.Map<java.lang.String, ? extends com.foo.Bar>'")
  | rule _ => none
  | reservedWord name context =>
    some ("rename the " ++ context ++ " '" ++ name ++
      "', or set 'allow_reserved = true' on a field")
  | invalidIdentifier _ _ flaw =>
    some (flaw.message ++
      ". Use only letters, digits, '_' and '$', starting with a letter, '_' or '$'.")

/-- What is written at the place of a fault. -/
def label : Fault → String
  | invalidType .. => "invalid type"
  | rule message => message
  | reservedWord .. => "reserved word used here"
  | invalidIdentifier .. => "invalid identifier"

end Fault

/-- A fault with its place in the source. -/
structure Diagnostic where
  file : String
  span : Option Text.Span
  fault : Fault
  deriving Repr, DecidableEq

/-- Why a manifest is not accepted. -/
inductive ManifestError
  /-- The file cannot be read. -/
  | unreadable (path : String)
  /-- The text is no document, or a document of the wrong form. -/
  | malformed (file : String) (cause : Option SchemaError)
  /-- There is one problem. -/
  | single (problem : Diagnostic)
  /-- There are several problems. -/
  | several (problems : List Diagnostic)

namespace ManifestError

/-- The error for one problem or more. -/
def ofDiagnostics (first : Diagnostic) (others : List Diagnostic) : ManifestError :=
  if others.isEmpty then single first else several (first :: others)

/-- The error for some problems, if there are any. -/
def ofDiagnostics? : List Diagnostic → Option ManifestError
  | [] => none
  | first :: others => some (ofDiagnostics first others)

/-- The problems that an error is made of. -/
def diagnostics : ManifestError → List Diagnostic
  | unreadable _ | malformed .. => []
  | single problem => [problem]
  | several problems => problems

/-- The number of problems that an error reports. -/
def count : ManifestError → Nat
  | several problems => problems.length
  | _ => 1

/-- The wording of an error. -/
def message : ManifestError → String
  | unreadable path => "failed to read '" ++ path ++ "'"
  | malformed .. => "failed to parse jgen.toml"
  | single problem => problem.fault.message
  | several problems => "found " ++ toString problems.length ++ " problems in jgen.toml"

/-- The stable identification of an error. -/
def code : ManifestError → String
  | unreadable _ => "jgen::io"
  | malformed .. => "jgen::parse_error"
  | single problem => problem.fault.code
  | several _ => "jgen::multiple_errors"

/-- What to do about an error. -/
def help? : ManifestError → Option String
  | unreadable _ => some "create a jgen.toml describing the units to generate"
  | malformed .. => none
  | single problem => problem.fault.help?
  | several _ => none

/-- The name of the source that an error is about. -/
def file? : ManifestError → Option String
  | unreadable _ => none
  | malformed file _ => some file
  | single problem => some problem.file
  | several _ => none

/-- An error for some problems reports exactly these. -/
theorem diagnostics_ofDiagnostics (first : Diagnostic) (others : List Diagnostic) :
    (ofDiagnostics first others).diagnostics = first :: others := by
  cases others <;> rfl

end ManifestError

end JavaScaffold
