import JavaScaffold.Manifest.Plan
import JavaScaffold.Manifest.Shape

/-!
# The form of a manifest

## Main Definitions

* `Schema.kinds`, `Schema.visibilities`, `Schema.overwriteRules` — the words that may be chosen
* `Schema.field`, `Schema.method`, `Schema.param`, `Schema.typeParam`, `Schema.initBlock` — the
  tables of members
* `Schema.unit` — the table of a unit, with the units nested in it
* `Schema.output`, `Schema.manifest` — the table of the output settings, and a whole manifest
-/

namespace JavaScaffold.Schema

open Toml (Value)
open Reading (text path flag list word)

/-- The words for the kinds of declarations. -/
def kinds : List (String × DeclKind) :=
  [("class", .ofClass), ("interface", .ofInterface), ("enum", .ofEnum), ("record", .ofRecord)]

/-- The words for visibilities. -/
def visibilities : List (String × Visibility) :=
  [("public", .everyone), ("protected", .subclasses), ("private", .declarer),
    ("package", .package)]

/-- The words for overwrite rules. -/
def overwriteRules : List (String × OverwriteRule) :=
  [("always", .always), ("if-missing", .ifMissing)]

/-- The indentation that a value stands for: a width of at most 255, or the word for a tab. -/
def indent? : Value → Option Indent
  | .integer (some n) => if 0 ≤ n ∧ n ≤ 255 then some (.spaces n.toNat) else none
  | .text s => if s = "tab" then some .tab else none
  | _ => none

/-- Reads an indentation.  The value is read as a whole before it is looked at. -/
def indent (v : Value) : Reading Indent := do
  Reading.anything v
  match indent? v with
  | some i => return i
  | none => .error .badIndent

/-- Reads a type parameter. -/
def typeParam (v : Value) : Reading TypeParamPlan :=
  Shape.read (v := v)
    { name := "TypeParamConfig"
      slots :=
        [.required "name" text fun x p => { p with name := x },
          .free "bounds" (list text) fun x p => { p with bounds := x }] } {}

/-- Reads a parameter or a record component. -/
def param (v : Value) : Reading ParamPlan :=
  Shape.read (v := v)
    { name := "ParamConfig"
      slots :=
        [.required "name" text fun x p => { p with name := x },
          .required "type" text fun x p => { p with type := x },
          .free "varargs" flag fun x p => { p with isVariadic := x },
          .free "annotations" (list text) fun x p => { p with annotations := x }] } {}

/-- Reads a field. -/
def field (v : Value) : Reading FieldPlan :=
  Shape.read (v := v)
    { name := "FieldConfig"
      slots :=
        [.required "name" text fun x p => { p with name := x },
          .required "type" text fun x p => { p with type := x },
          .free "visibility" (word visibilities) fun x p => { p with visibility := some x },
          .free "static" flag fun x p => { p with isStatic := x },
          .free "final" flag fun x p => { p with isFinal := x },
          .free "transient" flag fun x p => { p with isTransient := x },
          .free "volatile" flag fun x p => { p with isVolatile := x },
          .free "initializer" text fun x p => { p with initializer := some x },
          .free "doc" text fun x p => { p with doc := some x },
          .free "annotations" (list text) fun x p => { p with annotations := x },
          .free "allow_reserved" flag fun x p => { p with allowReserved := x }] } {}

/-- Reads a method or a constructor. -/
def method (v : Value) : Reading MethodPlan :=
  Shape.read (v := v)
    { name := "MethodConfig"
      slots :=
        [.free "name" text fun x p => { p with name := x },
          .free "constructor" flag fun x p => { p with isConstructor := x },
          .free "returns" text fun x p => { p with returnType := some x },
          .free "visibility" (word visibilities) fun x p => { p with visibility := some x },
          .free "static" flag fun x p => { p with isStatic := x },
          .free "final" flag fun x p => { p with isFinal := x },
          .free "abstract" flag fun x p => { p with isAbstract := x },
          .free "synchronized" flag fun x p => { p with isSynchronized := x },
          .free "native" flag fun x p => { p with isNative := x },
          .free "default" flag fun x p => { p with isDefault := x },
          .free "type_parameters" (list typeParam) fun x p => { p with typeParams := x },
          .free "params" (list param) fun x p => { p with params := x },
          .free "throws" (list text) fun x p => { p with exceptions := x },
          .free "body" (list text) fun x p => { p with body := x },
          .free "doc" text fun x p => { p with doc := some x },
          .free "annotations" (list text) fun x p => { p with annotations := x }] } {}

/-- Reads an initializer block. -/
def initBlock (v : Value) : Reading InitBlockPlan :=
  Shape.read (v := v)
    { name := "InitBlockConfig"
      slots :=
        [.free "static" flag fun x p => { p with isStatic := x },
          .free "body" (list text) fun x p => { p with body := x },
          .free "doc" text fun x p => { p with doc := some x }] } {}

/-- The form of the table of a unit, where `nested` reads the units nested in it. -/
def unitShape {v : Value} (nested : Member v → Reading (List UnitPlan)) : Shape v UnitPlan :=
  { name := "UnitConfig"
    slots :=
      [.free "kind" (word kinds) fun x p => { p with kind := x },
        .required "type" text fun x p => { p with type := x },
        .free "visibility" (word visibilities) fun x p => { p with visibility := some x },
        .free "static" flag fun x p => { p with isStatic := x },
        .free "final" flag fun x p => { p with isFinal := x },
        .free "abstract" flag fun x p => { p with isAbstract := x },
        .free "doc" text fun x p => { p with doc := some x },
        .free "annotations" (list text) fun x p => { p with annotations := x },
        .free "type_parameters" (list typeParam) fun x p => { p with typeParams := x },
        .free "extends" text fun x p => { p with superClass := some x },
        .free "implements" (list text) fun x p => { p with interfaces := x },
        .free "imports" (list text) fun x p => { p with imports := x },
        .free "static_imports" (list text) fun x p => { p with staticImports := x },
        .free "file_comments" (list text) fun x p => { p with comments := x },
        .free "constants" (list text) fun x p => { p with constants := x },
        .free "components" (list param) fun x p => { p with components := x },
        .free "field" (list field) fun x p => { p with fields := x },
        .free "method" (list method) fun x p => { p with methods := x },
        .free "init_block" (list initBlock) fun x p => { p with initBlocks := x },
        ⟨"nested", false, fun w p => do return { p with nested := ← nested w }⟩,
        .free "accessors" flag fun x p => { p with hasAccessors := x },
        .free "auto_import" flag fun x p => { p with importsReferenced := x }] }

/-- Reads a unit, with the units nested in it. -/
def unit (v : Value) : Reading UnitPlan :=
  (unitShape (v := v) fun w => Reading.listOf w.1 fun x => unit x.1).read {}
termination_by sizeOf v
decreasing_by exact Nat.lt_trans x.2 w.2

/-- Reads the output settings. -/
def output (v : Value) : Reading OutputPlan :=
  Shape.read (v := v)
    { name := "OutputConfig"
      slots :=
        [.free "directory" path fun x p => { p with directory := x },
          .free "indent" indent fun x p => { p with indent := x },
          .free "overwrite" (word overwriteRules) fun x p => { p with overwrite := x },
          .free "file_comments" (list text) fun x p => { p with comments := x }] } {}

/-- Reads a whole manifest from the table of its document. -/
def manifest (entries : Toml.Entries) : Reading ManifestPlan :=
  Shape.read (v := .table .header entries)
    { name := "Manifest"
      slots :=
        [.free "output" output fun x p => { p with output := x },
          .free "unit" (list unit) fun x p => { p with units := x }] } {}

end JavaScaffold.Schema
