import JavaScaffold.Decl.Member

/-!
# Declarations

A declaration is a class, an interface, an enum or a record, with its members and with the
declarations nested in it.

## Main Definitions

* `DeclKind` — the four kinds
* `Outline` — what a declaration says apart from its nested declarations
* `TypeDecl` — the tree of declarations
* `TypeDecl.implement` — one more super interface, unless it is there already
* `TypeDecl.referencedTypes` — the types that a declaration and its nested declarations refer to
* `TypeDecl.nestedNames` — the simple names that nested declarations introduce

## Design Notes

Nesting is the only recursion, so everything else about a declaration is collected in `Outline` and
a recursive function matches on an outline and a list.
-/

namespace JavaScaffold

/-- The kind of a declaration. -/
inductive DeclKind
  | ofClass
  | ofInterface
  | ofEnum
  | ofRecord
  deriving DecidableEq

/-- The word that introduces a declaration of this kind. -/
def DeclKind.keyword : DeclKind → String
  | ofClass => "class"
  | ofInterface => "interface"
  | ofEnum => "enum"
  | ofRecord => "record"

/-- What a declaration says apart from the declarations nested in it. -/
structure Outline where
  kind : DeclKind := .ofClass
  /-- The declared type. -/
  type : TypeRef
  visibility : Visibility := .everyone
  isStatic : Bool := false
  isFinal : Bool := false
  isAbstract : Bool := false
  doc : DocComment := {}
  annotations : List String := []
  typeParams : List TypeParam := []
  /-- The class that a class extends. -/
  superClass : Option TypeRef := none
  /-- The interfaces that a declaration implements or that an interface extends. -/
  interfaces : List TypeRef := []
  fields : List Field := []
  initBlocks : List InitBlock := []
  methods : List Method := []
  /-- The constants of an enum, written as they stand. -/
  constants : List String := []
  /-- The components of a record. -/
  components : List Param := []

/-- A declaration. -/
structure TypeDecl extends Outline where
  /-- The declarations nested in this one. -/
  nested : List TypeDecl := []

namespace Outline

/-- The simple name that a declaration introduces: `Inner` for `Outer.Inner`. -/
def declaredName (d : Outline) : String :=
  d.type.innerName

/-- The types that a method refers to: the bounds of its type parameters, its result, its
parameters and its exceptions. -/
def typesOfMethod (m : Method) : List TypeRef :=
  m.typeParams.flatMap TypeParam.bounds ++ m.returnType.toList ++ m.params.map Param.type ++
    m.exceptions

/-- The types that a declaration refers to, in reading order, apart from its nested
declarations. -/
def referencedTypes (d : Outline) : List TypeRef :=
  d.typeParams.flatMap TypeParam.bounds ++ d.superClass.toList ++ d.interfaces ++
    d.fields.map Field.type ++ d.components.map Param.type ++ d.methods.flatMap typesOfMethod

end Outline

namespace TypeDecl

/-- The declaration `d` with one more super interface, unless an equal one is there already. -/
def implement (d : TypeDecl) (interface : TypeRef) : TypeDecl :=
  { d with interfaces := TypeRef.insertNew d.interfaces interface }

mutual

/-- The types that a declaration refers to, then those of its nested declarations. -/
def referencedTypes : TypeDecl → List TypeRef
  | ⟨outline, nested⟩ => outline.referencedTypes ++ referencedTypesAll nested

/-- The types that some declarations refer to. -/
def referencedTypesAll : List TypeDecl → List TypeRef
  | [] => []
  | d :: ds => d.referencedTypes ++ referencedTypesAll ds

end

mutual

/-- The simple names that the declarations nested in a declaration introduce, at any depth. -/
def nestedNames : TypeDecl → List String
  | ⟨_, nested⟩ => nestedNamesAll nested

/-- The simple names of some declarations and of those nested in them. -/
def nestedNamesAll : List TypeDecl → List String
  | [] => []
  | d :: ds => d.declaredName :: d.nestedNames ++ nestedNamesAll ds

end

theorem referencedTypesAll_eq_flatMap (ds : List TypeDecl) :
    referencedTypesAll ds = ds.flatMap referencedTypes := by
  induction ds with
  | nil => rfl
  | cons d ds ih => simp [referencedTypesAll, ih]

theorem referencedTypes_eq (d : TypeDecl) :
    d.referencedTypes = d.toOutline.referencedTypes ++ d.nested.flatMap referencedTypes := by
  cases d
  simp [referencedTypes, referencedTypesAll_eq_flatMap]

theorem nestedNamesAll_eq_flatMap (ds : List TypeDecl) :
    nestedNamesAll ds = ds.flatMap fun d => d.declaredName :: d.nestedNames := by
  induction ds with
  | nil => rfl
  | cons d ds ih => simp [nestedNamesAll, ih]

theorem nestedNames_eq (d : TypeDecl) :
    d.nestedNames = d.nested.flatMap fun e => e.declaredName :: e.nestedNames := by
  cases d
  simp [nestedNames, nestedNamesAll_eq_flatMap]

end TypeDecl

end JavaScaffold
