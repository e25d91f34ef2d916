import JavaScaffold.Manifest.Plan
import JavaScaffold.Manifest.PlanSite

/-!
# From plans to members

Each plan of a member becomes the member, or the first problem that is found in it.  There is
nothing to find in an initializer block.

## Main Definitions

* `TypeParamPlan.build`, `ParamPlan.build`, `FieldPlan.build`, `MethodPlan.build`,
  `InitBlockPlan.build`
-/

namespace JavaScaffold

/-- Fails when a rule is broken.  The problem, which takes a search through the source, is looked at
only then. -/
@[macro_inline] def ensure (holds : Bool) (problem : Diagnostic) : Except Diagnostic Unit :=
  if holds then .ok () else .error problem

/-- The type parameter of a plan. -/
def TypeParamPlan.build (site : PlanSite) (p : TypeParamPlan) : Except Diagnostic TypeParam := do
  site.checkName p.name "type parameter" false
  let bounds ← p.bounds.mapM fun spec => site.readType spec ("bound of '" ++ p.name ++ "'")
  return { name := p.name, bounds := bounds }

/-- The parameter or the record component of a plan; the `role` says which. -/
def ParamPlan.build (role : String) (site : PlanSite) (p : ParamPlan) :
    Except Diagnostic Param := do
  site.checkName p.name role false
  let type ← site.readType p.type (role ++ " '" ++ p.name ++ "'")
  return { name := p.name, type := type, isVariadic := p.isVariadic, annotations := p.annotations }

namespace FieldPlan

/-- The visibility of a field.  Fields of an interface are public without a keyword. -/
def chosenVisibility (kind : DeclKind) (p : FieldPlan) : Visibility :=
  p.visibility.getD (if kind = .ofInterface then .package else .declarer)

/-- Whether the visibility of a field suits the kind of its declaration. -/
def isVisible (kind : DeclKind) (p : FieldPlan) : Bool :=
  !(kind = .ofInterface && (p.visibility = some .declarer || p.visibility = some .subclasses))

/-- The field of a plan. -/
def build (kind : DeclKind) (site : PlanSite) (p : FieldPlan) : Except Diagnostic Field := do
  site.checkName p.name "field" p.allowReserved
  let type ← site.readType p.type ("field '" ++ p.name ++ "'")
  ensure (p.isVisible kind)
    (site.broken ("interface field '" ++ p.name ++ "' cannot be private or protected") p.name)
  return {
    name := p.name
    type := type
    visibility := p.chosenVisibility kind
    isStatic := p.isStatic
    isFinal := p.isFinal
    isTransient := p.isTransient
    isVolatile := p.isVolatile
    initializer := p.initializer
    doc := p.doc
    annotations := p.annotations }

end FieldPlan

namespace MethodPlan

/-- Checks a constructor of the type `declared`: its name, if given, is that of the type, it has no
result, and the type is no interface. -/
def checkConstructor (kind : DeclKind) (declared : String) (site : PlanSite) (p : MethodPlan) :
    Except Diagnostic Unit := do
  ensure (p.name.isEmpty || p.name == declared)
    (site.broken ("constructor '" ++ p.name ++ "' must be named after its type '" ++ declared ++ "'")
      p.name)
  ensure (p.returnType.isNone && kind != .ofInterface)
    (site.broken ("invalid constructor for " ++ kind.keyword ++ " '" ++ declared ++ "'") declared)

/-- Checks the name of a method of the type `declared`. -/
def checkMethodName (declared : String) (site : PlanSite) (p : MethodPlan) :
    Except Diagnostic Unit := do
  ensure (!p.name.isEmpty) (site.broken ("a method of '" ++ declared ++ "' has no name") declared)
  site.checkName p.name "method" false

/-- The name and the result of a method or constructor. -/
def heading (kind : DeclKind) (declared : String) (site : PlanSite) (p : MethodPlan) :
    Except Diagnostic (String × Option TypeRef) :=
  if p.isConstructor then do
    p.checkConstructor kind declared site
    return (declared, none)
  else do
    p.checkMethodName declared site
    let type ← p.returnType.mapM fun spec =>
      site.readType spec ("return type of '" ++ p.name ++ "'")
    return (p.name, type)

/-- Checks the modifiers of the method `name`: it has no lines when it is native or abstract, and
it is a default method only in an interface. -/
def checkModifiers (kind : DeclKind) (name : String) (site : PlanSite) (p : MethodPlan) :
    Except Diagnostic Unit := do
  ensure (!(p.isAbstract || p.isNative) || p.body.isEmpty)
    (site.broken ((if p.isNative then "native" else "abstract") ++ " method '" ++ name ++
      "' cannot have a body") p.name)
  ensure (!p.isDefault || kind = .ofInterface)
    (site.broken ("'" ++ name ++ "' is a default method outside an interface") p.name)

/-- The method or constructor of a plan, in the type `declared`. -/
def build (kind : DeclKind) (declared : String) (site : PlanSite) (p : MethodPlan) :
    Except Diagnostic Method := do
  let (name, returnType) ← p.heading kind declared site
  p.checkModifiers kind name site
  let typeParams ← p.typeParams.mapM (TypeParamPlan.build site)
  let params ← p.params.mapM (ParamPlan.build "parameter" site)
  let exceptions ← p.exceptions.mapM fun spec =>
    site.readType spec ("throws clause of '" ++ name ++ "'")
  return {
    name := name
    isConstructor := p.isConstructor
    returnType := returnType
    visibility := p.visibility.getD .everyone
    isStatic := p.isStatic
    isFinal := p.isFinal
    isAbstract := p.isAbstract
    isSynchronized := p.isSynchronized
    isNative := p.isNative
    isDefault := p.isDefault
    typeParams := typeParams
    params := params
    exceptions := exceptions
    body := p.body
    doc := p.doc
    annotations := p.annotations }

end MethodPlan

/-- The initializer block of a plan. -/
def InitBlockPlan.build (p : InitBlockPlan) : InitBlock :=
  { isStatic := p.isStatic, body := p.body, doc := p.doc }

end JavaScaffold
