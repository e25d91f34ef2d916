import JavaScaffold.Manifest.Units
import JavaScaffold.Proofs.Decl.Accessors
import JavaScaffold.Proofs.Imports.Walk
import JavaScaffold.Proofs.Manifest.Members

/-!
# What units are built from

The plan of a declaration has groups of checks, one for each part that can fail on its
own, and it stands for a declaration.  The same holds of a unit with all that is nested
in it, and of a whole manifest.  One theorem about each of the building functions says
both: it reports the first problem of every group, and what it gives is what the plan
stands for.

## Main Definitions

* `DeclPlan.groups`, `UnitPlan.groups`, `UnitPlan.fileGroups`, `ManifestPlan.groups` — the
  groups of checks
* `DeclPlan.Yields`, `UnitPlan.Yields` — a plan and the declaration that it stands for
* `DeclPlan.Assembles` — a plan and the declaration that is put together from its parts
* `UnitPlan.IsNamed` — a unit and the class that it is named like

## Main Statements

* `DeclPlan.report_outline`, `UnitPlan.report_decl`, `UnitPlan.report_build`,
  `ManifestPlan.report_build` — the specifications of the building functions

## Design Notes

Where a part is not looked at because another one has a problem, its groups are missing
as well: `headed` leaves them out.  That happens at five places: the constants of what is
no enum, the components of what is no record, a nested unit without a usable name, a unit
without a usable type, and a unit whose type another one has.
-/

namespace JavaScaffold

variable {site : PlanSite}

/-! ### Interfaces -/

theorem TypeRef.sameAs_comm (s t : TypeRef) : s.sameAs t = t.sameAs s := by
  rw [sameAs, sameAs]
  exact BEq.comm

/-- Of equal references, the first one stays. -/
theorem TypeRef.distinct_eq_eraseDupsBy (ts : List TypeRef) :
    distinct ts = ts.eraseDupsBy sameAs := by
  suffices general : ∀ kept : List TypeRef,
      ts.foldl insertNew kept = List.eraseDupsBy.loop sameAs ts kept.reverse from general []
  induction ts with
  | nil =>
      intro kept
      rw [List.foldl_nil, List.eraseDupsBy.loop, List.reverse_reverse]
  | cons t ts ih =>
      intro kept
      have taken : (kept.any fun s => s.sameAs t) = kept.reverse.any (t.sameAs ·) := by
        rw [List.any_reverse]
        exact congrArg kept.any (funext fun s => sameAs_comm s t)
      rw [List.foldl_cons, insertNew, taken, List.eraseDupsBy.loop]
      cases kept.reverse.any (t.sameAs ·) with
      | true => exact ih kept
      | false =>
          rw [if_neg Bool.false_ne_true, ih, List.reverse_append, List.reverse_singleton,
            List.singleton_append]

/-- No reference comes out of nothing. -/
theorem TypeRef.distinct_subset (ts : List TypeRef) : distinct ts ⊆ ts := by
  suffices general : ∀ kept : List TypeRef, ts.foldl insertNew kept ⊆ kept ++ ts from general []
  induction ts with
  | nil =>
      intro kept
      rw [List.foldl_nil, List.append_nil]
      exact List.Subset.refl kept
  | cons t ts ih =>
      intro kept
      have longer : insertNew kept t ⊆ kept ++ [t] := by
        rw [insertNew]
        split
        · exact List.subset_append_left kept [t]
        · exact List.Subset.refl _
      rw [List.foldl_cons, ← List.singleton_append, ← List.append_assoc]
      refine List.Subset.trans (ih _) (List.append_subset.mpr ⟨?_, List.subset_append_right _ _⟩)
      exact List.subset_append_of_subset_left ts longer

/-! ### Declarations -/

namespace DeclPlan

/-- The group of the superclass. -/
def superclassGroups (site : PlanSite) (declared : String) (p : DeclPlan) : List CheckGroup :=
  p.superClass.toList.map fun spec =>
    ⟨site, [.rule (p.kind = .ofClass) ("only a class takes 'extends'; list the supertypes of " ++
      p.kind.keyword ++ " '" ++ declared ++ "' under 'implements'") spec, .type spec "superclass"]⟩

/-- The groups of the constants. -/
def constantGroups (site : PlanSite) (declared : String) (p : DeclPlan) : List CheckGroup :=
  headed ⟨site, [.rule (!(!p.constants.isEmpty && p.kind != .ofEnum))
      ("'" ++ declared ++ "' declares constants but is not an enum") p.type]⟩
    (p.constants.map fun c => ⟨site, [.name (constantName c) "enum constant" false]⟩)

/-- The groups of the components. -/
def componentGroups (site : PlanSite) (declared : String) (p : DeclPlan) : List CheckGroup :=
  headed ⟨site, [.rule (!(!p.components.isEmpty && p.kind != .ofRecord))
      ("'" ++ declared ++ "' declares components but is not a record") p.type]⟩
    (p.components.map fun c => ⟨site, c.checks "record component"⟩)

/-- The group of a field that comes after fields with the names `earlier`. -/
def fieldGroup (site : PlanSite) (kind : DeclKind) (declared : String) (earlier : List String)
    (f : FieldPlan) : CheckGroup :=
  ⟨site, .rule (!earlier.contains f.name)
    ("field '" ++ f.name ++ "' is declared twice in '" ++ declared ++ "'") f.name :: f.checks kind⟩

/-- The group of the initializer blocks. -/
def blockGroup (site : PlanSite) (declared : String) (p : DeclPlan) : CheckGroup :=
  ⟨site, [.rule (!(!p.initBlocks.isEmpty && p.kind = .ofInterface))
    ("interface '" ++ declared ++ "' cannot have initializer blocks") p.type]⟩

/-- The group of the accessors. -/
def accessorGroup (site : PlanSite) (declared : String) (p : DeclPlan) : CheckGroup :=
  ⟨site, [.rule (!p.hasAccessors || p.kind = .ofClass || p.kind = .ofEnum)
    ("accessors are only generated for classes and enums, '" ++ declared ++ "' is " ++
      kindWithArticle p.kind) p.type]⟩

/-- **The groups of a declaration**, apart from those of its nested declarations. -/
def groups (site : PlanSite) (declared : String) (p : DeclPlan) : List CheckGroup :=
  (p.typeParams.map fun t => ⟨site, t.checks⟩) ++ p.superclassGroups site declared ++
    (p.interfaces.map fun spec => ⟨site, [.type spec "interface"]⟩) ++
    p.constantGroups site declared ++ p.componentGroups site declared ++
    flatMapAfter FieldPlan.name (fun earlier f => [fieldGroup site p.kind declared earlier f]) []
      p.fields ++ [p.blockGroup site declared] ++
    (p.methods.map fun m => ⟨site, m.checks p.kind declared⟩) ++ [p.accessorGroup site declared]

/-- The parts of the groups of a declaration that belong to its members. -/
theorem subset_groups (site : PlanSite) (declared : String) (p : DeclPlan) :
    (p.typeParams.map fun t => ⟨site, t.checks⟩) ⊆ p.groups site declared ∧
    p.superclassGroups site declared ⊆ p.groups site declared ∧
    (p.interfaces.map fun spec => ⟨site, [.type spec "interface"]⟩) ⊆ p.groups site declared ∧
    p.constantGroups site declared ⊆ p.groups site declared ∧
    p.componentGroups site declared ⊆ p.groups site declared ∧
    flatMapAfter FieldPlan.name (fun earlier f => [fieldGroup site p.kind declared earlier f]) []
      p.fields ⊆ p.groups site declared ∧
    (p.methods.map fun m => ⟨site, m.checks p.kind declared⟩) ⊆ p.groups site declared := by
  refine ⟨?_, ?_, ?_, ?_, ?_, ?_, ?_⟩
  all_goals
    intro g found
    simp only [groups, List.mem_append, found, true_or, or_true]

/-- **The declaration that a plan stands for**: everything that is planned, in the order of
the plan, and behind the methods possibly accessors. -/
structure Yields (declared : TypeRef) (p : DeclPlan) (d : Outline) : Prop where
  kind : d.kind = p.kind
  type : d.type = declared
  visibility : d.visibility = p.visibility.getD .everyone
  isStatic : d.isStatic = p.isStatic
  isFinal : d.isFinal = p.isFinal
  isAbstract : d.isAbstract = p.isAbstract
  doc : d.doc = .ofText? p.doc
  annotations : d.annotations = p.annotations
  typeParams : List.Forall₂ TypeParamPlan.Yields p.typeParams d.typeParams
  superClass : Option.Rel Reads p.superClass d.superClass
  /-- Of interfaces that are equal, the first one stays. -/
  interfaces : ∃ ts, List.Forall₂ Reads p.interfaces ts ∧
    d.interfaces = ts.eraseDupsBy TypeRef.sameAs
  constants : d.constants = p.constants.map Text.trimmed
  components : List.Forall₂ ParamPlan.Yields p.components d.components
  fields : List.Forall₂ (FieldPlan.Yields p.kind) p.fields d.fields
  initBlocks : List.Forall₂ InitBlockPlan.Yields p.initBlocks d.initBlocks
  methods : ∃ own extra, d.methods = own ++ extra ∧
    List.Forall₂ (MethodPlan.Yields declared.innerName) p.methods own ∧
    IsAccessorTail d.fields own extra ∧ (p.hasAccessors = false → extra = [])

/-- **A declaration put together** from what the parts of its plan stand for. -/
inductive Assembles (type : TypeRef) (p : DeclPlan) : Outline → Prop
  | mk {typeParams : List TypeParam} {superClass : Option TypeRef} {interfaces : List TypeRef}
      {components : List Param} {fields : List Field} {methods : List Method}
      (typeParams' : List.Forall₂ TypeParamPlan.Yields p.typeParams typeParams)
      (superClass' : Option.Rel Reads p.superClass superClass)
      (interfaces' : List.Forall₂ Reads p.interfaces interfaces)
      (components' : List.Forall₂ ParamPlan.Yields p.components components)
      (fields' : List.Forall₂ (FieldPlan.Yields p.kind) p.fields fields)
      (methods' : List.Forall₂ (MethodPlan.Yields type.innerName) p.methods methods) :
      Assembles type p (p.assemble type typeParams superClass interfaces
        (p.constants.map Text.trimmed) components fields (p.initBlocks.map InitBlockPlan.build)
        methods)

theorem Assembles.yields {type : TypeRef} {p : DeclPlan} {d : Outline}
    (assembles : p.Assembles type d) : p.Yields type d := by
  cases assembles with
  | @mk _ _ interfaces _ _ methods typeParams' superClass' interfaces' components' fields'
      methods' =>
      have kept : ∃ ts, List.Forall₂ Reads p.interfaces ts ∧
          TypeRef.distinct interfaces = ts.eraseDupsBy TypeRef.sameAs :=
        ⟨interfaces, interfaces', TypeRef.distinct_eq_eraseDupsBy interfaces⟩
      have blocks : List.Forall₂ InitBlockPlan.Yields p.initBlocks
          (p.initBlocks.map InitBlockPlan.build) :=
        List.forall₂_map_right_iff.mpr (List.forall₂_same.mpr fun i _ => i.yields_build)
      rw [assemble]
      cases accessors : p.hasAccessors with
      | false =>
          rw [if_neg Bool.false_ne_true]
          refine ⟨rfl, rfl, rfl, rfl, rfl, rfl, rfl, rfl, typeParams', superClass', kept, rfl,
            components', fields', blocks, ?_⟩
          exact ⟨methods, [], (List.append_nil _).symm, methods', isAccessorTail_nil _ _,
            fun _ => rfl⟩
      | true =>
          rw [if_pos rfl]
          refine ⟨rfl, rfl, rfl, rfl, rfl, rfl, rfl, rfl, typeParams', superClass', kept, rfl,
            components', fields', blocks, ?_⟩
          obtain ⟨extra, all, tail⟩ := Outline.exists_accessorTail _
          exact ⟨methods, extra, all, methods', tail,
            fun never => nomatch accessors.symm.trans never⟩

/-! The parts of a declaration, one after the other. -/

theorem report_superclass (declared : String) (p : DeclPlan) :
    Report (p.superclassGroups site declared) (Option.Rel Reads p.superClass)
      (p.superclass site declared) := by
  rw [superclassGroups, superclass]
  cases p.superClass with
  | none => exact Report.fine .none
  | some spec =>
      have step := (outcome_ensure site (p.kind = .ofClass)
        ("only a class takes 'extends'; list the supertypes of " ++ p.kind.keyword ++ " '" ++
          declared ++ "' under 'implements'") spec).bind
        fun _ _ => outcome_readType site spec "superclass"
      have some : ∀ t, Reads spec t → Option.Rel Reads (.some spec) (.some t) := fun t => .some
      have whole := (Report.ofExcept step).map some
      dsimp only [Option.toList_some, List.map_singleton]
      by_cases isClass : p.kind = .ofClass
      · rw [decide_eq_true isClass] at whole ⊢
        rw [if_pos isClass]
        exact whole
      · rw [decide_eq_false isClass] at whole ⊢
        rw [if_neg isClass]
        exact whole

theorem report_interfaces (p : DeclPlan) :
    Report (p.interfaces.map fun spec => ⟨site, [.type spec "interface"]⟩)
      (List.Forall₂ Reads p.interfaces)
      (Checked.all (fun spec => Checked.ofExcept (site.readType spec "interface"))
        p.interfaces) := by
  rw [List.map_eq_flatMap]
  exact Report.all p.interfaces fun spec _ => .ofExcept (outcome_readType site spec "interface")

theorem report_constant (c : String) :
    Report [⟨site, [.name (constantName c) "enum constant" false]⟩] (Text.trimmed c = ·)
      (constant site c) := by
  have checked := outcome_checkName site (constantName c) "enum constant" false
  rw [constant]
  exact .ofExcept (checked.map fun _ _ => rfl)

theorem report_constants (declared : String) (p : DeclPlan) :
    Report (p.constantGroups site declared) (p.constants.map Text.trimmed = ·)
      (p.enumConstants site declared) := by
  refine Report.ofUnless _ _ p.type ?_
  rw [List.map_eq_flatMap]
  refine (Report.all p.constants fun c _ => report_constant c).mono fun texts all => ?_
  rwa [← List.forall₂_map_left_iff, List.forall₂_eq_eq_eq] at all

theorem report_components (declared : String) (p : DeclPlan) :
    Report (p.componentGroups site declared) (List.Forall₂ ParamPlan.Yields p.components)
      (p.recordComponents site declared) := by
  refine Report.ofUnless _ _ p.type ?_
  rw [List.map_eq_flatMap]
  exact Report.all p.components fun c _ => .ofExcept (c.outcome_build "record component")

theorem report_fields (declared : String) (p : DeclPlan) :
    Report (flatMapAfter FieldPlan.name
        (fun earlier f => [fieldGroup site p.kind declared earlier f]) [] p.fields)
      (List.Forall₂ (FieldPlan.Yields p.kind) p.fields)
      (Checked.allAfter FieldPlan.name (field site p.kind declared) [] p.fields) :=
  Report.allAfter [] p.fields fun earlier f _ =>
    .ofExceptUnless (earlier.contains f.name) _ f.name (f.outcome_build p.kind)

theorem report_blocks (declared : String) (p : DeclPlan) :
    Report [p.blockGroup site declared] (p.initBlocks.map InitBlockPlan.build = ·)
      (p.blocks site declared) :=
  .ofExceptUnless (!p.initBlocks.isEmpty && p.kind = .ofInterface) _ p.type (.pure rfl)

theorem report_methods (declared : String) (p : DeclPlan) :
    Report (p.methods.map fun m => ⟨site, m.checks p.kind declared⟩)
      (List.Forall₂ (MethodPlan.Yields declared) p.methods)
      (Checked.all (fun m => Checked.ofExcept (m.build p.kind declared site)) p.methods) := by
  rw [List.map_eq_flatMap]
  exact Report.all p.methods fun m _ => .ofExcept (m.outcome_build p.kind declared)

/-- A declaration without its nested declarations is put together, or the first problem of
each group is reported. -/
theorem report_assembles (type : TypeRef) (p : DeclPlan) :
    Report (p.groups site type.innerName) (p.Assembles type) (p.outline type site) := by
  have typeParams : Report (p.typeParams.map fun t => ⟨site, t.checks⟩)
      (List.Forall₂ TypeParamPlan.Yields p.typeParams)
      (Checked.all (fun t => Checked.ofExcept (t.build site)) p.typeParams) := by
    rw [List.map_eq_flatMap]
    exact Report.all p.typeParams fun t _ => .ofExcept t.outcome_build
  have accessors := Report.guarded site (!p.hasAccessors || p.kind = .ofClass || p.kind = .ofEnum)
    ("accessors are only generated for classes and enums, '" ++ type.innerName ++ "' is " ++
      kindWithArticle p.kind) p.type
  -- The parts are put together from the left, so the last one comes off first.
  refine Report.applyLeft ?_ accessors
  refine Report.apply ?_ (p.report_methods type.innerName)
  refine Report.apply ?_ (p.report_blocks type.innerName)
  refine Report.apply ?_ (p.report_fields type.innerName)
  refine Report.apply ?_ (p.report_components type.innerName)
  refine Report.apply ?_ (p.report_constants type.innerName)
  refine Report.apply ?_ p.report_interfaces
  refine Report.apply ?_ (p.report_superclass type.innerName)
  refine typeParams.map ?_
  rintro typeParams typeParams' superClass superClass' interfaces interfaces' constants rfl
    components components' fields fields' blocks rfl methods methods'
  exact .mk typeParams' superClass' interfaces' components' fields' methods'

/-- **A declaration** without its nested declarations is built from its plan, or the first
problem of each group is reported. -/
theorem report_outline (type : TypeRef) (p : DeclPlan) :
    Report (p.groups site type.innerName) (p.Yields type) (p.outline type site) :=
  (p.report_assembles type).mono fun _ assembles => assembles.yields

/-- The group of the name of a nested unit that comes after units with the names
`earlier`. -/
def nestedGroup (site : PlanSite) (earlier : List String) (p : DeclPlan) : CheckGroup :=
  ⟨site, [.name p.nestedName "nested type" false, .rule (!earlier.contains p.nestedName)
    ("nested type '" ++ p.nestedName ++ "' is declared twice") p.nestedName]⟩

/-- The group of what only a whole file can say. -/
def fileGroup (site : PlanSite) (p : DeclPlan) : CheckGroup :=
  ⟨site, [.rule (p.imports.isEmpty && p.staticImports.isEmpty && p.comments.isEmpty)
    ("nested type '" ++ p.nestedName ++
      "' cannot declare imports or file comments; move them to the top-level unit") p.nestedName]⟩

theorem report_checkNested (site : PlanSite) (earlier : List String) (p : DeclPlan) :
    Report [p.nestedGroup site earlier] (fun _ => True)
      (.ofExcept (p.checkNested site earlier)) := by
  have name := outcome_checkName site p.nestedName "nested type" false
  refine .ofExcept (name.bind fun _ _ => ?_)
  exact (outcome_ensure site (!earlier.contains p.nestedName) _ p.nestedName).mono
    fun _ _ => trivial

theorem report_fileProblem (site : PlanSite) (p : DeclPlan) :
    Report [p.fileGroup site] (fun _ => True) (.guarded (p.fileProblem? site)) :=
  .guarded site (p.imports.isEmpty && p.staticImports.isEmpty && p.comments.isEmpty) _ p.nestedName

end DeclPlan

/-! ### Units -/

namespace UnitPlan

mutual

/-- **The groups of a unit** that declares `type`, with those of its nested units. -/
def groups (type : TypeRef) (site : PlanSite) : UnitPlan → List CheckGroup
  | ⟨p, nested⟩ => p.groups site type.innerName ++ nestedGroups type site [] nested

/-- The groups of units nested in `outer`, which come after units with the names
`earlier`. -/
def nestedGroups (outer : TypeRef) (site : PlanSite) : List String → List UnitPlan → List CheckGroup
  | _, [] => []
  | earlier, u :: us =>
    headed (u.nestedGroup site earlier)
        (u.fileGroup site :: u.groups (outer.nested u.nestedName) (site.inside u.nestedName)) ++
      nestedGroups outer site (u.nestedName :: earlier) us

end

theorem groups_eq (type : TypeRef) (site : PlanSite) (u : UnitPlan) :
    u.groups type site = u.toDeclPlan.groups site type.innerName ++
      nestedGroups type site [] u.nested := by
  obtain ⟨p, nested⟩ := u
  rw [groups]

/-- The groups of nested units, item by item. -/
theorem nestedGroups_eq (outer : TypeRef) (site : PlanSite) (earlier : List String)
    (us : List UnitPlan) :
    nestedGroups outer site earlier us =
      flatMapAfter (fun u : UnitPlan => u.nestedName) (fun earlier u =>
        headed (u.nestedGroup site earlier)
          (u.fileGroup site :: u.groups (outer.nested u.nestedName) (site.inside u.nestedName)))
        earlier us := by
  induction us generalizing earlier with
  | nil => rw [nestedGroups, flatMapAfter]
  | cons u us ih => rw [nestedGroups, flatMapAfter, ih]

mutual

/-- **The declaration that a unit stands for**, with its nested declarations. -/
def Yields (type : TypeRef) : UnitPlan → TypeDecl → Prop
  | ⟨p, nested⟩, d => p.Yields type d.toOutline ∧ YieldsAll type nested d.nested

/-- The declarations that units nested in `outer` stand for, one by one. -/
def YieldsAll (outer : TypeRef) : List UnitPlan → List TypeDecl → Prop
  | [], ds => ds = []
  | u :: us, ds => ∃ d rest, ds = d :: rest ∧ u.Yields (outer.nested u.nestedName) d ∧
      YieldsAll outer us rest

end

/-- Nested units correspond to nested declarations one by one and in their order. -/
theorem yieldsAll_iff {outer : TypeRef} {us : List UnitPlan} {ds : List TypeDecl} :
    YieldsAll outer us ds ↔
      List.Forall₂ (fun u d => u.Yields (outer.nested u.nestedName) d) us ds := by
  induction us generalizing ds with
  | nil => rw [YieldsAll, List.forall₂_nil_left_iff]
  | cons u us ih =>
      rw [YieldsAll, List.forall₂_cons_left_iff]
      constructor
      · rintro ⟨d, rest, rfl, here, later⟩
        exact ⟨d, rest, here, ih.mp later, rfl⟩
      · rintro ⟨d, rest, here, later, rfl⟩
        exact ⟨d, rest, rfl, here, ih.mpr later⟩

mutual

/-- **A declaration** with its nested declarations is built from its plan, or the first
problem of each group is reported. -/
theorem report_decl (type : TypeRef) (site : PlanSite) :
    (u : UnitPlan) → Report (u.groups type site) (u.Yields type) (u.decl type site)
  | ⟨p, nested⟩ => by
    rw [groups, decl]
    refine Report.apply ((p.report_outline type).map fun outline yields nested' all => ?_)
      (report_nestedDecls type site [] nested)
    rw [Yields]
    exact ⟨yields, all⟩

theorem report_nestedDecls (outer : TypeRef) (site : PlanSite) (earlier : List String) :
    (us : List UnitPlan) →
      Report (nestedGroups outer site earlier us) (YieldsAll outer us)
        (nestedDecls outer site earlier us)
  | [] => by
    rw [nestedGroups, nestedDecls]
    exact .fine (by rw [YieldsAll])
  | u :: us => by
    rw [nestedGroups, nestedDecls]
    -- Without a usable name, the rest of a nested unit is not looked at.
    have body := Report.applyRight (DeclPlan.report_fileProblem site u.toDeclPlan)
      (report_decl (outer.nested u.nestedName) (site.inside u.nestedName) u)
    have declared := Report.andThen (DeclPlan.report_checkNested site earlier u.toDeclPlan)
      fun _ _ => body
    refine Report.apply (declared.map fun d yields rest all => ?_)
      (report_nestedDecls outer site (u.nestedName :: earlier) us)
    rw [YieldsAll]
    exact ⟨d, rest, rfl, yields, all⟩

end

/-! ### Files -/

/-- The checks of the type of a unit. -/
def typeChecks (p : UnitPlan) : List Check :=
  .type p.type "unit type" ::
    match TypeRef.readNamed p.type with
    | .error _ => []
    | .ok t =>
      [.rule (isClassName t) ("unit type '" ++ p.type ++
        "' must be a plain class name; declare type parameters under 'type_parameters'") p.type,
        .name t.name "unit" false]

/-- **The groups of a unit on its own**, with those of its imports. -/
def fileGroups (site : PlanSite) (p : UnitPlan) : List CheckGroup :=
  headed ⟨site, p.typeChecks⟩
    (match TypeRef.readNamed p.type with
    | .error _ => []
    | .ok t => p.groups t (site.inside p.type) ++
        p.imports.map fun spec => ⟨site.inside p.type, [.type spec "import"]⟩)

/-- The type of a unit is the mere name `t` of a class. -/
structure IsNamed (p : UnitPlan) (t : TypeRef) : Prop where
  reads : TypeRef.readNamed p.type = .ok t
  plain : isClassName t = true
  usable : Identifier.IsUsable t.name

theorem problem?_typeChecks {p : UnitPlan} {t : TypeRef} (named : p.IsNamed t) :
    CheckGroup.problem? ⟨site, p.typeChecks⟩ = none := by
  rw [typeChecks, CheckGroup.problem?_cons (PlanSite.problem?_type named.reads _ _), named.reads,
    CheckGroup.problem?_cons (PlanSite.problem?_rule named.plain _ _ _),
    CheckGroup.problem?_cons (PlanSite.problem?_name named.usable _ _ _)]
  rfl

/-- What is in a unit is looked at when the unit is named like a class. -/
theorem fileGroups_of_isNamed {p : UnitPlan} {t : TypeRef} (named : p.IsNamed t) :
    p.fileGroups site = ⟨site, p.typeChecks⟩ :: (p.groups t (site.inside p.type) ++
      p.imports.map fun spec => ⟨site.inside p.type, [.type spec "import"]⟩) := by
  rw [fileGroups, headed_of_passed (problem?_typeChecks named), named.reads]

/-- **The file that a unit stands for**, with the lines `comments` at its top. -/
structure YieldsFile (comments : List String) (p : UnitPlan) (u : CompilationUnit) : Prop where
  decl : ∃ t, Reads p.type t ∧ p.Yields t u.decl
  comments : u.comments = comments ++ p.comments

theorem outcome_declaredType (p : UnitPlan) :
    Outcome site p.typeChecks (TypeRef.readNamed p.type = .ok ·) (p.declaredType site) := by
  refine (outcome_readNamed site p.type "unit type").bind fun t named => ?_
  rw [named]
  refine (outcome_ensure site (isClassName t) _ p.type).bind fun _ _ => ?_
  exact (outcome_checkName site t.name "unit" false).map fun _ _ => rfl

theorem foldl_addComment (u : CompilationUnit) (lines : List String) :
    lines.foldl CompilationUnit.addComment u = { u with comments := u.comments ++ lines } := by
  induction lines generalizing u with
  | nil => rw [List.foldl_nil, List.append_nil]
  | cons line lines ih =>
      rw [List.foldl_cons, ih, CompilationUnit.addComment]
      dsimp only
      rw [List.append_assoc, List.singleton_append]

/-- The unit `u` declares `d` and has the lines `lines` at its top. -/
def IsFileOf (d : TypeDecl) (lines : List String) (u : CompilationUnit) : Prop :=
  u.decl = d ∧ u.comments = lines

theorem IsFileOf.addStaticImports {d : TypeDecl} {lines : List String} {u : CompilationUnit}
    (file : IsFileOf d lines u) (paths : List String) :
    IsFileOf d lines (paths.foldl CompilationUnit.addStaticImport u) := by
  induction paths generalizing u with
  | nil => exact file
  | cons path paths ih => exact ih file

theorem IsFileOf.addImports {d : TypeDecl} {lines : List String} {u : CompilationUnit}
    (file : IsFileOf d lines u) (ts : List TypeRef) : IsFileOf d lines (u.addImports ts) := by
  rw [CompilationUnit.addImports_eq_walk]
  refine CompilationUnit.walk_preserves (fun v t file => ?_) _ file
  rcases v.visit_cases t with ⟨path, -, -, extended⟩ | ⟨-, same⟩
  · rw [extended]
    exact file
  · rwa [same]

/-- Comments and imports are put around the declaration. -/
theorem isFileOf_assemble (p : UnitPlan) (comments : List String) (d : TypeDecl)
    (imports : List TypeRef) :
    IsFileOf d (comments ++ p.comments) (p.assemble comments d imports) := by
  have commented : IsFileOf d (comments ++ p.comments)
      ((comments ++ p.comments).foldl CompilationUnit.addComment (.ofDecl d)) := by
    rw [foldl_addComment]
    exact ⟨rfl, List.nil_append _⟩
  have static := commented.addStaticImports (p.staticImports.map Text.trimmed)
  have explicit := static.addImports imports
  rw [assemble]
  cases p.importsReferenced with
  | true => exact explicit.addImports _
  | false => exact explicit

/-- **A unit** is built from its plan, or the first problem of each group is reported. -/
theorem report_build (comments : List String) (site : PlanSite) (p : UnitPlan) :
    Report (p.fileGroups site) (p.YieldsFile comments) (p.build comments site) := by
  refine Report.andThen (.ofExcept p.outcome_declaredType) fun t named => ?_
  rw [named]
  have imports : Report
      (p.imports.map fun spec => ⟨site.inside p.type, [.type spec "import"]⟩)
      (List.Forall₂ Reads p.imports)
      (Checked.all (fun spec => Checked.ofExcept ((site.inside p.type).readType spec "import"))
        p.imports) := by
    rw [List.map_eq_flatMap]
    exact Report.all p.imports fun spec _ => .ofExcept (outcome_readType _ spec "import")
  refine Report.apply ((p.report_decl t (site.inside p.type)).map fun d yields ts _ => ?_) imports
  obtain ⟨sameDecl, sameComments⟩ := p.isFileOf_assemble comments d ts
  refine ⟨⟨t, (TypeRef.readNamed_eq_ok_iff.mp named).2.1, ?_⟩, sameComments⟩
  rwa [sameDecl]

end UnitPlan

/-! ### Manifests -/

namespace ManifestPlan

/-- **The groups of a manifest.** -/
def groups (site : PlanSite) (m : ManifestPlan) : List CheckGroup :=
  flatMapAfter UnitPlan.key (fun earlier p =>
    headed ⟨site, [.rule (!earlier.contains p.key)
      ("type '" ++ p.type ++ "' is declared by more than one unit") p.type]⟩ (p.fileGroups site))
    [] m.units

/-- The problems of a manifest with a single unit. -/
theorem filterMap_groups_singleton (output : OutputPlan) {p : UnitPlan} {t : TypeRef}
    (named : p.IsNamed t) (site : PlanSite) :
    ((⟨output, [p]⟩ : ManifestPlan).groups site).filterMap CheckGroup.problem? =
      (p.groups t (site.inside p.type) ++ p.imports.map fun spec =>
        (⟨site.inside p.type, [.type spec "import"]⟩ : CheckGroup)).filterMap
          CheckGroup.problem? := by
  have single : CheckGroup.problem? ⟨site, [.rule (!([] : List String).contains p.key)
      ("type '" ++ p.type ++ "' is declared by more than one unit") p.type]⟩ = none := rfl
  rw [groups, flatMapAfter, flatMapAfter, List.append_nil, headed_of_passed single,
    List.filterMap_cons_none single, UnitPlan.fileGroups_of_isNamed named,
    List.filterMap_cons_none (UnitPlan.problem?_typeChecks named)]

/-- **All units** of a manifest are built from their plans, or the first problem of each
group is reported. -/
theorem report_build (site : PlanSite) (m : ManifestPlan) :
    Report (m.groups site) (List.Forall₂ (UnitPlan.YieldsFile m.output.comments) m.units)
      (m.build site) :=
  Report.allAfter [] m.units fun earlier p _ =>
    .ofUnless (earlier.contains p.key) _ p.type (p.report_build m.output.comments site)

end ManifestPlan

end JavaScaffold
