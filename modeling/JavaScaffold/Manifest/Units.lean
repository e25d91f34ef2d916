import JavaScaffold.Decl.Accessors
import JavaScaffold.Manifest.Checked
import JavaScaffold.Manifest.Members
import JavaScaffold.Unit.Basic

/-!
# From plans to units

## Main Definitions

* `DeclPlan.outline` — a declaration without its nested declarations
* `UnitPlan.decl` — a declaration with its nested declarations
* `UnitPlan.build` — a compilation unit
* `ManifestPlan.build` — all the units of a manifest

## Design Notes

The parts of a declaration do not depend on each other, so the problems of all of them are
reported, in the order of the parts here.  A member reports its first problem only.
-/

namespace JavaScaffold

namespace DeclPlan

/-- The superclass; only a class has one. -/
def superclass (site : PlanSite) (declared : String) (p : DeclPlan) : Checked (Option TypeRef) :=
  match p.superClass with
  | none => .fine none
  | some spec =>
    if p.kind = .ofClass then some <$> Checked.ofExcept (site.readType spec "superclass")
    else
      .flawed (site.broken ("only a class takes 'extends'; list the supertypes of " ++
        p.kind.keyword ++ " '" ++ declared ++ "' under 'implements'") spec) []

/-- The name of an enum constant: what stands before its arguments. -/
def constantName (constant : String) : String :=
  Text.trimmed (Text.beforeFirst '(' constant)

/-- An enum constant. -/
def constant (site : PlanSite) (constant : String) : Checked String :=
  Checked.ofExcept do
    site.checkName (constantName constant) "enum constant" false
    return Text.trimmed constant

/-- The constants; only an enum has some. -/
def enumConstants (site : PlanSite) (declared : String) (p : DeclPlan) : Checked (List String) :=
  if !p.constants.isEmpty && p.kind != .ofEnum then
    .flawed (site.broken ("'" ++ declared ++ "' declares constants but is not an enum") p.type) []
  else Checked.all (constant site) p.constants

/-- The components; only a record has some. -/
def recordComponents (site : PlanSite) (declared : String) (p : DeclPlan) :
    Checked (List Param) :=
  if !p.components.isEmpty && p.kind != .ofRecord then
    .flawed (site.broken ("'" ++ declared ++ "' declares components but is not a record") p.type) []
  else
    Checked.all (fun c => Checked.ofExcept (ParamPlan.build "record component" site c)) p.components

/-- A field that comes after fields with the names `earlier`. -/
def field (site : PlanSite) (kind : DeclKind) (declared : String) (earlier : List String)
    (f : FieldPlan) : Checked Field :=
  if earlier.contains f.name then
    .flawed (site.broken ("field '" ++ f.name ++ "' is declared twice in '" ++ declared ++ "'")
      f.name) []
  else Checked.ofExcept (f.build kind site)

/-- The initializer blocks; an interface has none. -/
def blocks (site : PlanSite) (declared : String) (p : DeclPlan) : Checked (List InitBlock) :=
  if !p.initBlocks.isEmpty && p.kind = .ofInterface then
    .flawed (site.broken ("interface '" ++ declared ++ "' cannot have initializer blocks") p.type) []
  else .fine (p.initBlocks.map InitBlockPlan.build)

/-- The kind of a declaration with the article in front. -/
def kindWithArticle : DeclKind → String
  | .ofClass => "a class"
  | .ofInterface => "an interface"
  | .ofEnum => "an enum"
  | .ofRecord => "a record"

/-- The problem of accessors where there are none. -/
def accessorProblem? (site : PlanSite) (declared : String) (p : DeclPlan) : Option Diagnostic :=
  if !p.hasAccessors || p.kind = .ofClass || p.kind = .ofEnum then none
  else
    some (site.broken ("accessors are only generated for classes and enums, '" ++ declared ++
      "' is " ++ kindWithArticle p.kind) p.type)

/-- The declaration of a plan, put together from its parts. -/
def assemble (p : DeclPlan) (type : TypeRef) (typeParams : List TypeParam)
    (superClass : Option TypeRef) (interfaces : List TypeRef) (constants : List String)
    (components : List Param) (fields : List Field) (initBlocks : List InitBlock)
    (methods : List Method) : Outline :=
  let outline : Outline :=
    { kind := p.kind
      type := type
      visibility := p.visibility.getD .everyone
      isStatic := p.isStatic
      isFinal := p.isFinal
      isAbstract := p.isAbstract
      doc := p.doc
      annotations := p.annotations
      typeParams := typeParams
      superClass := superClass
      interfaces := TypeRef.distinct interfaces
      fields := fields
      initBlocks := initBlocks
      methods := methods
      constants := constants
      components := components }
  if p.hasAccessors then outline.withAccessors else outline

/-- The declaration of a plan, without its nested declarations. -/
def outline (type : TypeRef) (site : PlanSite) (p : DeclPlan) : Checked Outline :=
  let declared := type.innerName
  p.assemble type <$> Checked.all (fun t => Checked.ofExcept (t.build site)) p.typeParams
    <*> p.superclass site declared
    <*> Checked.all (fun spec => Checked.ofExcept (site.readType spec "interface")) p.interfaces
    <*> p.enumConstants site declared
    <*> p.recordComponents site declared
    <*> Checked.allAfter FieldPlan.name (field site p.kind declared) [] p.fields
    <*> p.blocks site declared
    <*> Checked.all (fun m => Checked.ofExcept (m.build p.kind declared site)) p.methods
    <* Checked.guarded (p.accessorProblem? site declared)

/-- The simple name under which a nested unit is declared. -/
def nestedName (p : DeclPlan) : String :=
  Text.trimmed p.type

/-- The problem of a nested unit that says what only a whole file can say. -/
def fileProblem? (site : PlanSite) (p : DeclPlan) : Option Diagnostic :=
  if p.imports.isEmpty && p.staticImports.isEmpty && p.comments.isEmpty then none
  else
    some (site.broken ("nested type '" ++ p.nestedName ++
      "' cannot declare imports or file comments; move them to the top-level unit") p.nestedName)

/-- Checks the name of a nested unit that comes after units with the names `earlier`. -/
def checkNested (site : PlanSite) (earlier : List String) (p : DeclPlan) :
    Except Diagnostic Unit := do
  site.checkName p.nestedName "nested type" false
  ensure (!earlier.contains p.nestedName)
    (site.broken ("nested type '" ++ p.nestedName ++ "' is declared twice") p.nestedName)

end DeclPlan

namespace UnitPlan

mutual

/-- The declaration of a plan, with its nested declarations. -/
def decl (type : TypeRef) (site : PlanSite) : UnitPlan → Checked TypeDecl
  | ⟨p, nested⟩ => TypeDecl.mk <$> p.outline type site <*> nestedDecls type site [] nested

/-- The declarations of units nested in `outer`, which come after units with the names
`earlier`. -/
def nestedDecls (outer : TypeRef) (site : PlanSite) :
    List String → List UnitPlan → Checked (List TypeDecl)
  | _, [] => .fine []
  | earlier, u :: us =>
    let name := u.nestedName
    let declared := (Checked.ofExcept (u.checkNested site earlier)).andThen fun _ =>
      Checked.guarded (u.fileProblem? site) *> u.decl (outer.nested name) (site.inside name)
    List.cons <$> declared <*> nestedDecls outer site (name :: earlier) us

end

/-- Whether a type can be that of a unit: the mere name of a class. -/
def isClassName (t : TypeRef) : Bool :=
  t.primitive?.isNone && !t.isArray && t.wildcard.isNone && t.args.isEmpty

/-- The type that a unit declares. -/
def declaredType (site : PlanSite) (p : UnitPlan) : Except Diagnostic TypeRef := do
  let t ← site.readType p.type "unit type"
  ensure (isClassName t)
    (site.broken ("unit type '" ++ p.type ++
      "' must be a plain class name; declare type parameters under 'type_parameters'") p.type)
  site.checkName t.name "unit" false
  return t

/-- The unit of a declaration, with the comment lines and the imports of its plan. -/
def assemble (p : UnitPlan) (comments : List String) (decl : TypeDecl) (imports : List TypeRef) :
    CompilationUnit :=
  let commented := (comments ++ p.comments).foldl CompilationUnit.addComment (.ofDecl decl)
  let static := (p.staticImports.map Text.trimmed).foldl CompilationUnit.addStaticImport commented
  let explicit := static.addImports imports
  if p.importsReferenced then explicit.importReferenced else explicit

/-- The unit of a plan.  The lines `comments` stand above those of the plan. -/
def build (comments : List String) (site : PlanSite) (p : UnitPlan) : Checked CompilationUnit :=
  (Checked.ofExcept (p.declaredType site)).andThen fun type =>
    let inner := site.inside p.type
    p.assemble comments <$> p.decl type inner
      <*> Checked.all (fun spec => Checked.ofExcept (inner.readType spec "import")) p.imports

/-- What tells the units of a manifest apart. -/
def key (p : UnitPlan) : String :=
  Text.trimmed p.type

end UnitPlan

namespace ManifestPlan

/-- The unit of a plan that comes after units with the keys `earlier`. -/
def unit (m : ManifestPlan) (site : PlanSite) (earlier : List String) (p : UnitPlan) :
    Checked CompilationUnit :=
  if earlier.contains p.key then
    .flawed (site.broken ("type '" ++ p.type ++ "' is declared by more than one unit") p.type) []
  else p.build m.output.comments site

/-- All the units of a manifest. -/
def build (m : ManifestPlan) (site : PlanSite) : Checked (List CompilationUnit) :=
  Checked.allAfter UnitPlan.key (m.unit site) [] m.units

end ManifestPlan

end JavaScaffold
