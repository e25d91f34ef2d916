import JavaScaffold.Manifest.Diagnostic

/-!
# Checking names and types where they are planned

A plan site knows the source text of the manifest and the way from the unit down to the declaration
whose members are checked.  Names and types that do not pass are reported with both.

## Main Definitions

* `PlanSite` — the source and the way
* `PlanSite.describe` — what a text was written for, and in which declaration
* `PlanSite.find?` — where a text stands in the source
* `PlanSite.checkName` — names of declarations
* `TypeRef.flaw?`, `PlanSite.readType` — types

## Design Notes

A text is searched for in double quotes first, then in single quotes, then anywhere, because the
same letters may stand elsewhere in the source as part of another word.
-/

namespace JavaScaffold

/-- Where a plan stands. -/
structure PlanSite where
  /-- The text of the manifest. -/
  source : String
  /-- The name of the manifest. -/
  file : String
  /-- The names from the unit down to the declaration whose members are planned. -/
  path : List String := []

namespace TypeRef

/-- The dotted name in the text of a node: what stands before the first bracket. -/
def dottedName (name : List Char) : List Char :=
  Text.trimEnd (name.takeWhile (· != '['))

/-- The first part of a dotted name that is not formed like an identifier. -/
def badSegment? (name : List Char) : Option TypeFlaw :=
  (Text.splitAll '.' name).findSome? fun segment =>
    (Identifier.flaw? segment).map (.badSegment (String.ofList segment))

/-- Whether `c` may follow a dotted name. -/
def isBracketChar (c : Char) : Bool :=
  c == '[' || c == ']' || c == ' '

/-- What follows the dotted name, when it is not made of brackets. -/
def trailing? (name : List Char) : Option TypeFlaw :=
  let suffix := Text.trim (name.drop (dottedName name).length)
  if suffix.all isBracketChar then none else some (.trailing (String.ofList suffix))

/-- What is wrong with the name of a node.  The unbounded wildcard has no name. -/
def TypeNode.flaw? (n : TypeNode) : Option TypeFlaw :=
  if n.wildcard == some .unbounded then none
  else
    match badSegment? (dottedName n.qualifiedName.toList) with
    | some flaw => some flaw
    | none => trailing? n.qualifiedName.toList

mutual

/-- What is wrong with the names in a type: its own name first, then those of its arguments. -/
def flaw? : TypeRef → Option TypeFlaw
  | ⟨node, args⟩ =>
    match TypeNode.flaw? node with
    | some flaw => some flaw
    | none => flawInAll? args

/-- What is wrong with the names in some types. -/
def flawInAll? : List TypeRef → Option TypeFlaw
  | [] => none
  | t :: ts =>
    match t.flaw? with
    | some flaw => some flaw
    | none => flawInAll? ts

end

/-- Reads a type whose names are formed like identifiers. -/
def readNamed (spec : String) : Except TypeFlaw TypeRef :=
  if Text.isBlankText spec.toList then .error .blank
  else
    match TypeRef.parse spec with
    | .error cause => .error (.unreadable cause)
    | .ok t =>
      match t.flaw? with
      | some flaw => .error flaw
      | none => .ok t

end TypeRef

namespace PlanSite

/-- The site one declaration further down. -/
def inside (site : PlanSite) (name : String) : PlanSite :=
  { site with path := site.path ++ [name] }

/-- The way from the unit down. -/
def pathText (site : PlanSite) : String :=
  "::".intercalate site.path

/-- What a text was written for, and in which declaration. -/
def describe (site : PlanSite) (role : String) : String :=
  if site.path.isEmpty then role else role ++ " in '" ++ site.pathText ++ "'"

/-- The first occurrence of `needle` between two `quote`s in `source`. -/
def spanBetween? (quote : Char) (needle source : List Char) : Option Text.Span :=
  (Text.before? (quote :: needle ++ [quote]) source).map fun front =>
    ⟨Text.byteSize front + 1, Text.byteSize needle⟩

/-- Where a text stands in `source`. -/
def spanIn? (needle source : List Char) : Option Text.Span :=
  if needle.isEmpty then none
  else
    match spanBetween? '"' needle source with
    | some span => some span
    | none =>
      match spanBetween? '\'' needle source with
      | some span => some span
      | none => Text.spanOf? needle source

/-- Where a text stands in the source. -/
def find? (site : PlanSite) (needle : String) : Option Text.Span :=
  spanIn? needle.toList site.source.toList

/-- A fault that shows at the text `needle`. -/
def report (site : PlanSite) (needle : String) (fault : Fault) : Diagnostic :=
  { file := site.file, span := site.find? needle, fault := fault }

/-- A broken rule that shows at the text `needle`. -/
def broken (site : PlanSite) (message needle : String) : Diagnostic :=
  site.report needle (.rule message)

/-- Checks a name in its role.  Nothing is wrong with the empty name. -/
def checkName (site : PlanSite) (name role : String) (allowReserved : Bool) :
    Except Diagnostic Unit :=
  if !allowReserved && Identifier.isReserved name then
    .error (site.report name (.reservedWord name (site.describe role)))
  else
    match Identifier.flaw? name.toList with
    | some flaw => .error (site.report name (.invalidIdentifier name (site.describe role) flaw))
    | none => .ok ()

/-- Reads a type in its role. -/
def readType (site : PlanSite) (spec role : String) : Except Diagnostic TypeRef :=
  match TypeRef.readNamed spec with
  | .ok t => .ok t
  | .error flaw => .error (site.report spec (.invalidType spec (site.describe role) flaw))

end PlanSite

end JavaScaffold
