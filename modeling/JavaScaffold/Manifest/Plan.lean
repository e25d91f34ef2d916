import JavaScaffold.Decl.Basic
import JavaScaffold.File.Basic
import JavaScaffold.Layout.Indent

/-!
# Plans

A plan is what a manifest says about a declaration before anything is checked: names and types are
texts as they were written.

## Main Definitions

* `TypeParamPlan`, `ParamPlan`, `FieldPlan`, `MethodPlan`, `InitBlockPlan` — the plans of members
* `DeclPlan` — what a unit says apart from its nested units
* `UnitPlan` — the tree of units
* `OutputPlan` — where and how the files are written
* `ManifestPlan` — a whole manifest
-/

namespace JavaScaffold

/-- The plan of a type parameter. -/
structure TypeParamPlan where
  name : String := ""
  bounds : List String := []

/-- The plan of a parameter or of a record component. -/
structure ParamPlan where
  name : String := ""
  type : String := ""
  isVariadic : Bool := false
  annotations : List String := []

/-- The plan of a field. -/
structure FieldPlan where
  name : String := ""
  type : String := ""
  visibility : Option Visibility := none
  isStatic : Bool := false
  isFinal : Bool := false
  isTransient : Bool := false
  isVolatile : Bool := false
  initializer : Option String := none
  doc : Option String := none
  annotations : List String := []
  /-- Whether the name may be a reserved word. -/
  allowReserved : Bool := false

/-- The plan of a method or a constructor. -/
structure MethodPlan where
  /-- The name, which a constructor may leave out. -/
  name : String := ""
  isConstructor : Bool := false
  /-- The type of the result; none for a method that returns nothing. -/
  returnType : Option String := none
  visibility : Option Visibility := none
  isStatic : Bool := false
  isFinal : Bool := false
  isAbstract : Bool := false
  isSynchronized : Bool := false
  isNative : Bool := false
  isDefault : Bool := false
  typeParams : List TypeParamPlan := []
  params : List ParamPlan := []
  exceptions : List String := []
  body : List String := []
  doc : Option String := none
  annotations : List String := []

/-- The plan of an initializer block. -/
structure InitBlockPlan where
  isStatic : Bool := false
  body : List String := []
  doc : Option String := none

/-- What a unit says apart from the units nested in it. -/
structure DeclPlan where
  kind : DeclKind := .ofClass
  /-- The full name of a top-level unit, the simple name of a nested one. -/
  type : String := ""
  visibility : Option Visibility := none
  isStatic : Bool := false
  isFinal : Bool := false
  isAbstract : Bool := false
  doc : Option String := none
  annotations : List String := []
  typeParams : List TypeParamPlan := []
  superClass : Option String := none
  interfaces : List String := []
  /-- Types to import in addition to those that are referred to. -/
  imports : List String := []
  staticImports : List String := []
  comments : List String := []
  constants : List String := []
  components : List ParamPlan := []
  fields : List FieldPlan := []
  methods : List MethodPlan := []
  initBlocks : List InitBlockPlan := []
  /-- Whether instance fields get methods that read and write them. -/
  hasAccessors : Bool := false
  /-- Whether the types that the declaration refers to are imported. -/
  importsReferenced : Bool := true

/-- The plan of a unit. -/
structure UnitPlan extends DeclPlan where
  nested : List UnitPlan := []

/-- Where and how the files are written. -/
structure OutputPlan where
  /-- The directory for the files, relative to that of the manifest. -/
  directory : String := "src/main/java"
  indent : Indent := .standard
  overwrite : OverwriteRule := .always
  /-- The lines at the top of every file. -/
  comments : List String := []

/-- A whole manifest. -/
structure ManifestPlan where
  output : OutputPlan := {}
  units : List UnitPlan := []

end JavaScaffold
