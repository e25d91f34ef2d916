import JavaScaffold.Proofs.Manifest.Outcome
import JavaScaffold.Proofs.TypeRef.Accepted

/-!
# What members are built from

A plan of a member says two things: what is checked, in which order, and what the
member holds when no check fails.  Both are given here apart from the functions that
build the members, and each of these functions is specified by them.

## Main Definitions

* `TypeParamPlan.checks`, `ParamPlan.checks`, `FieldPlan.checks`, `MethodPlan.checks` —
  the checks of a member
* `Reads` — a specification and the type it stands for
* `TypeParamPlan.Yields`, `ParamPlan.Yields`, `FieldPlan.Yields`, `MethodPlan.Yields` — a
  plan and the member that it stands for

## Main Statements

* `TypeParamPlan.outcome_build`, `ParamPlan.outcome_build`, `FieldPlan.outcome_build`,
  `MethodPlan.outcome_build` — a member is built from its plan, or the first problem of
  its checks is reported
-/

namespace JavaScaffold

variable {site : PlanSite}

/-! ### Types -/

/-- The specification `spec` stands for the type `t`. -/
def Reads (spec : String) (t : TypeRef) : Prop :=
  TypeRef.parse spec = .ok t

/-- A text that is accepted as a type passes in every role. -/
theorem PlanSite.problem?_type {spec : String} {t : TypeRef}
    (named : TypeRef.readNamed spec = .ok t) (site : PlanSite) (role : String) :
    site.problem? (.type spec role) = none := by
  rw [problem?, readType_eq_ok_iff.mpr named]
  rfl

/-- What passes as a type is accepted as one. -/
theorem PlanSite.exists_of_problem?_type {spec role : String}
    (passed : site.problem? (.type spec role) = none) : ∃ t, TypeRef.readNamed spec = .ok t := by
  unfold problem? at passed
  cases done : site.readType spec role with
  | ok t => exact ⟨t, readType_eq_ok_iff.mp done⟩
  | error problem => simp [done, failure?] at passed

theorem outcome_readNamed (site : PlanSite) (spec role : String) :
    Outcome site [.type spec role] (TypeRef.readNamed spec = .ok ·) (site.readType spec role) :=
  .single rfl fun _ done => PlanSite.readType_eq_ok_iff.mp done

theorem outcome_readType (site : PlanSite) (spec role : String) :
    Outcome site [.type spec role] (Reads spec) (site.readType spec role) :=
  (outcome_readNamed site spec role).mono fun _ named => (TypeRef.readNamed_eq_ok_iff.mp named).2.1

/-- The types of a list of specifications, all in the same role. -/
theorem outcome_readTypes (site : PlanSite) (role : String) (specs : List String) :
    Outcome site (specs.map (.type · role)) (List.Forall₂ Reads specs)
      (specs.mapM fun spec => site.readType spec role) := by
  rw [List.map_eq_flatMap]
  exact Outcome.mapM specs fun spec _ => outcome_readType site spec role

/-! ### Type parameters -/

namespace TypeParamPlan

/-- The checks of a type parameter. -/
def checks (p : TypeParamPlan) : List Check :=
  .name p.name "type parameter" false ::
    p.bounds.map (.type · ("bound of '" ++ p.name ++ "'"))

/-- The type parameter that a plan stands for. -/
structure Yields (p : TypeParamPlan) (t : TypeParam) : Prop where
  name : t.name = p.name
  bounds : List.Forall₂ Reads p.bounds t.bounds

theorem outcome_build (p : TypeParamPlan) : Outcome site p.checks p.Yields (p.build site) := by
  refine (outcome_checkName site p.name "type parameter" false).bind fun _ _ => ?_
  exact (outcome_readTypes site _ p.bounds).map fun bounds all => ⟨rfl, all⟩

end TypeParamPlan

/-! ### Parameters and components -/

namespace ParamPlan

/-- The checks of a parameter or component. -/
def checks (role : String) (p : ParamPlan) : List Check :=
  [.name p.name role false, .type p.type (role ++ " '" ++ p.name ++ "'")]

/-- The parameter or component that a plan stands for. -/
structure Yields (p : ParamPlan) (q : Param) : Prop where
  name : q.name = p.name
  type : Reads p.type q.type
  isVariadic : q.isVariadic = p.isVariadic
  annotations : q.annotations = p.annotations

theorem outcome_build (role : String) (p : ParamPlan) :
    Outcome site (p.checks role) p.Yields (p.build role site) := by
  refine (outcome_checkName site p.name role false).bind fun _ _ => ?_
  exact (outcome_readType site p.type _).map fun type reads => ⟨rfl, reads, rfl, rfl⟩

end ParamPlan

/-! ### Fields -/

namespace FieldPlan

/-- The checks of a field. -/
def checks (kind : DeclKind) (p : FieldPlan) : List Check :=
  [.name p.name "field" p.allowReserved, .type p.type ("field '" ++ p.name ++ "'"),
    .rule (p.isVisible kind)
      ("interface field '" ++ p.name ++ "' cannot be private or protected") p.name]

/-- The field that a plan stands for. -/
structure Yields (kind : DeclKind) (p : FieldPlan) (f : Field) : Prop where
  name : f.name = p.name
  type : Reads p.type f.type
  visibility : f.visibility = p.chosenVisibility kind
  isStatic : f.isStatic = p.isStatic
  isFinal : f.isFinal = p.isFinal
  isTransient : f.isTransient = p.isTransient
  isVolatile : f.isVolatile = p.isVolatile
  initializer : f.initializer = p.initializer
  doc : f.doc = .ofText? p.doc
  annotations : f.annotations = p.annotations

theorem outcome_build (kind : DeclKind) (p : FieldPlan) :
    Outcome site (p.checks kind) (p.Yields kind) (p.build kind site) := by
  refine (outcome_checkName site p.name "field" p.allowReserved).bind fun _ _ => ?_
  refine (outcome_readType site p.type _).bind fun type reads => ?_
  refine (outcome_ensure site (p.isVisible kind) _ p.name).map fun _ _ => ?_
  exact ⟨rfl, reads, rfl, rfl, rfl, rfl, rfl, rfl, rfl, rfl⟩

end FieldPlan

/-! ### Methods -/

namespace MethodPlan

/-- The name of a method; a constructor is called like the type that declares it. -/
def chosenName (declared : String) (p : MethodPlan) : String :=
  if p.isConstructor then declared else p.name

/-- The checks of a constructor of the type `declared`. -/
def constructorChecks (kind : DeclKind) (declared : String) (p : MethodPlan) : List Check :=
  [.rule (p.name.isEmpty || p.name == declared)
      ("constructor '" ++ p.name ++ "' must be named after its type '" ++ declared ++ "'") p.name,
    .rule (p.returnType.isNone && kind != .ofInterface)
      ("invalid constructor for " ++ kind.keyword ++ " '" ++ declared ++ "'") declared]

/-- The checks of the name of a method of the type `declared`. -/
def nameChecks (declared : String) (p : MethodPlan) : List Check :=
  [.rule (!p.name.isEmpty) ("a method of '" ++ declared ++ "' has no name") declared,
    .name p.name "method" false]

/-- The checks of the name and the result of a method, or of a constructor. -/
def headingChecks (kind : DeclKind) (declared : String) (p : MethodPlan) : List Check :=
  if p.isConstructor then p.constructorChecks kind declared
  else p.nameChecks declared ++
    p.returnType.toList.map (.type · ("return type of '" ++ p.name ++ "'"))

/-- The checks of the modifiers of a method. -/
def modifierChecks (kind : DeclKind) (name : String) (p : MethodPlan) : List Check :=
  [.rule (!(p.isAbstract || p.isNative) || p.body.isEmpty)
      ((if p.isNative then "native" else "abstract") ++ " method '" ++ name ++
        "' cannot have a body") p.name,
    .rule (!p.isDefault || kind = .ofInterface)
      ("'" ++ name ++ "' is a default method outside an interface") p.name]

/-- The checks of a method or constructor of the type `declared`. -/
def checks (kind : DeclKind) (declared : String) (p : MethodPlan) : List Check :=
  p.headingChecks kind declared ++ (p.modifierChecks kind (p.chosenName declared) ++
    (p.typeParams.flatMap TypeParamPlan.checks ++
      (p.params.flatMap (ParamPlan.checks "parameter") ++
        p.exceptions.map (.type · ("throws clause of '" ++ p.chosenName declared ++ "'")))))

/-- The method or constructor that a plan stands for. -/
structure Yields (declared : String) (p : MethodPlan) (m : Method) : Prop where
  name : m.name = p.chosenName declared
  isConstructor : m.isConstructor = p.isConstructor
  returnType : Option.Rel Reads p.returnType m.returnType
  visibility : m.visibility = p.visibility.getD .everyone
  isStatic : m.isStatic = p.isStatic
  isFinal : m.isFinal = p.isFinal
  isAbstract : m.isAbstract = p.isAbstract
  isSynchronized : m.isSynchronized = p.isSynchronized
  isNative : m.isNative = p.isNative
  isDefault : m.isDefault = p.isDefault
  typeParams : List.Forall₂ TypeParamPlan.Yields p.typeParams m.typeParams
  params : List.Forall₂ ParamPlan.Yields p.params m.params
  exceptions : List.Forall₂ Reads p.exceptions m.exceptions
  body : m.body = p.body
  doc : m.doc = .ofText? p.doc
  annotations : m.annotations = p.annotations

theorem outcome_returnType (p : MethodPlan) (role : String) :
    Outcome site (p.returnType.toList.map (.type · role)) (Option.Rel Reads p.returnType)
      (p.returnType.mapM fun spec => site.readType spec role) := by
  cases p.returnType with
  | none => exact Outcome.pure .none
  | some spec => exact (outcome_readType site spec role).map fun t reads => .some reads

/-- A constructor that passes has no result. -/
theorem outcome_checkConstructor (kind : DeclKind) (declared : String) (p : MethodPlan) :
    Outcome site (p.constructorChecks kind declared) (fun _ => p.returnType = none)
      (p.checkConstructor kind declared site) := by
  refine (outcome_ensure site _ _ p.name).bind fun _ _ => ?_
  refine (outcome_ensure site _ _ declared).mono fun _ holds => ?_
  rw [Bool.and_eq_true] at holds
  exact Option.isNone_iff_eq_none.mp holds.1

theorem outcome_checkMethodName (declared : String) (p : MethodPlan) :
    Outcome site (p.nameChecks declared) (fun _ => True) (p.checkMethodName declared site) := by
  refine (outcome_ensure site _ _ declared).bind fun _ _ => ?_
  exact outcome_checkName site p.name "method" false

/-- The heading has the name and the type of the result that the plan stands for. -/
theorem outcome_heading (kind : DeclKind) (declared : String) (p : MethodPlan) :
    Outcome site (p.headingChecks kind declared)
      (fun heading => heading.1 = p.chosenName declared ∧ Option.Rel Reads p.returnType heading.2)
      (p.heading kind declared site) := by
  rw [headingChecks, heading, chosenName]
  cases p.isConstructor with
  | true =>
      rw [if_pos rfl, if_pos rfl, if_pos rfl]
      refine (p.outcome_checkConstructor kind declared).map fun _ noResult => ?_
      rw [noResult]
      exact ⟨rfl, .none⟩
  | false =>
      rw [if_neg Bool.false_ne_true, if_neg Bool.false_ne_true, if_neg Bool.false_ne_true]
      refine (p.outcome_checkMethodName declared).bind fun _ _ => ?_
      exact (p.outcome_returnType _).map fun type reads => ⟨rfl, reads⟩

theorem outcome_checkModifiers (kind : DeclKind) (name : String) (p : MethodPlan) :
    Outcome site (p.modifierChecks kind name) (fun _ => True)
      (p.checkModifiers kind name site) := by
  refine (outcome_ensure site _ _ p.name).bind fun _ _ => ?_
  exact (outcome_ensure site _ _ p.name).mono fun _ _ => trivial

theorem outcome_build (kind : DeclKind) (declared : String) (p : MethodPlan) :
    Outcome site (p.checks kind declared) (p.Yields declared) (p.build kind declared site) := by
  refine (p.outcome_heading kind declared).bind ?_
  rintro ⟨name, returnType⟩ ⟨named, reads⟩
  dsimp only at named reads ⊢
  subst named
  refine (p.outcome_checkModifiers kind _).bind fun _ _ => ?_
  refine (Outcome.mapM p.typeParams fun t _ => t.outcome_build).bind fun typeParams all => ?_
  refine (Outcome.mapM p.params fun q _ => q.outcome_build "parameter").bind fun params all' => ?_
  refine (outcome_readTypes site _ p.exceptions).map fun exceptions all'' => ?_
  exact ⟨rfl, rfl, reads, rfl, rfl, rfl, rfl, rfl, rfl, rfl, all, all', all'', rfl, rfl, rfl⟩

end MethodPlan

/-! ### Initializer blocks -/

/-- The initializer block that a plan stands for. -/
structure InitBlockPlan.Yields (p : InitBlockPlan) (i : InitBlock) : Prop where
  isStatic : i.isStatic = p.isStatic
  body : i.body = p.body
  doc : i.doc = .ofText? p.doc

theorem InitBlockPlan.yields_build (p : InitBlockPlan) : p.Yields p.build :=
  ⟨rfl, rfl, rfl⟩

end JavaScaffold
