import JavaScaffold.Manifest.Basic
import JavaScaffold.Proofs.Manifest.Units

/-!
# Which problems of a manifest are reported

Names and types are written all over a manifest, member by member.  Each member is
checked until something in it is wrong, so of the problems in one member the first is
reported, and those behind it are not.  Problems in different members never hide each
other.

## Main Definitions

* `DeclPlan.Writes`, `UnitPlan.Writes`, `ManifestPlan.Writes` — what is written in its
  place, one group of checks for each member

## Main Statements

* `ManifestPlan.diagnostics_accept` — the problems of a refused manifest
* `ManifestPlan.accept_reports` — a failing check is reported, or one before it in the
  same member is
* `ManifestPlan.accept_hides` — a manifest in which a problem is hidden

## Design Notes

What is not in its place is not looked at, and is reported as such: a superclass of an
enum, for instance, or the second one of two fields with the same name.  Everything else
is looked at, as wrong as the rest of the manifest may be.
-/

namespace JavaScaffold

variable {site : PlanSite} {g : CheckGroup} {groups others : List CheckGroup}

/-! ### Groups that are looked at -/

/-- The problem of `g` is the problem of some group in `groups`. -/
def Covers (groups : List CheckGroup) (g : CheckGroup) : Prop :=
  ∃ other ∈ groups, other.problem? = g.problem?

theorem covers_of_mem (member : g ∈ groups) : Covers groups g :=
  ⟨g, member, rfl⟩

theorem Covers.mono (covered : Covers groups g) (more : groups ⊆ others) : Covers others g := by
  obtain ⟨other, member, same⟩ := covered
  exact ⟨other, more member, same⟩

/-! ### Declarations -/

namespace DeclPlan

/-- **What is written in a declaration in its place**, one group for each member.  Of
fields with the same name, only the first one is in its place. -/
inductive Writes (site : PlanSite) (declared : String) (p : DeclPlan) : CheckGroup → Prop
  | typeParam {t : TypeParamPlan} (member : t ∈ p.typeParams) :
      Writes site declared p ⟨site, t.checks⟩
  | superClass {spec : String} (isClass : p.kind = .ofClass) (given : p.superClass = some spec) :
      Writes site declared p ⟨site, [.type spec "superclass"]⟩
  | interface {spec : String} (member : spec ∈ p.interfaces) :
      Writes site declared p ⟨site, [.type spec "interface"]⟩
  | constant {c : String} (isEnum : p.kind = .ofEnum) (member : c ∈ p.constants) :
      Writes site declared p ⟨site, [.name (constantName c) "enum constant" false]⟩
  | component {c : ParamPlan} (isRecord : p.kind = .ofRecord) (member : c ∈ p.components) :
      Writes site declared p ⟨site, c.checks "record component"⟩
  | field {before after : List FieldPlan} {f : FieldPlan} (split : p.fields = before ++ f :: after)
      (fresh : f.name ∉ before.map FieldPlan.name) : Writes site declared p ⟨site, f.checks p.kind⟩
  | method {m : MethodPlan} (member : m ∈ p.methods) :
      Writes site declared p ⟨site, m.checks p.kind declared⟩

variable {p : DeclPlan} {declared : String} {w : CheckGroup}

theorem covers_superclassGroups (isClass : p.kind = .ofClass) {spec : String}
    (given : p.superClass = some spec) :
    Covers (p.superclassGroups site declared) ⟨site, [.type spec "superclass"]⟩ := by
  rw [superclassGroups, given]
  refine ⟨_, List.mem_singleton_self _, CheckGroup.problem?_cons ?_⟩
  exact PlanSite.problem?_rule (decide_eq_true isClass) _ _ _

/-- In a declaration of the right kind, nothing is out of place. -/
theorem suits {kind right : DeclKind} (same : kind = right) (some : Bool) :
    (!(some && kind != right)) = true := by
  rw [same, bne_self_eq_false, Bool.and_false]
  rfl

theorem subset_constantGroups (isEnum : p.kind = .ofEnum) :
    (p.constants.map fun c => ⟨site, [.name (constantName c) "enum constant" false]⟩) ⊆
      p.constantGroups site declared :=
  subset_headed (CheckGroup.problem?_cons (PlanSite.problem?_rule (suits isEnum _) _ _ _))

theorem subset_componentGroups (isRecord : p.kind = .ofRecord) :
    (p.components.map fun c => ⟨site, c.checks "record component"⟩) ⊆
      p.componentGroups site declared :=
  subset_headed (CheckGroup.problem?_cons (PlanSite.problem?_rule (suits isRecord _) _ _ _))

theorem covers_fieldGroups {before after : List FieldPlan} {f : FieldPlan}
    (split : p.fields = before ++ f :: after) (fresh : f.name ∉ before.map FieldPlan.name) :
    Covers (flatMapAfter FieldPlan.name
      (fun earlier f => [fieldGroup site p.kind declared earlier f]) [] p.fields)
      ⟨site, f.checks p.kind⟩ := by
  rw [split]
  refine ⟨_, subset_flatMapAfter _ _ _ before f after (List.mem_singleton_self _), ?_⟩
  exact CheckGroup.problem?_cons (PlanSite.problem?_rule (not_contains_iff.mpr fresh) _ _ _)

/-- **Every member** of a declaration that is in its place is looked at. -/
theorem covers_groups (written : p.Writes site declared w) :
    Covers (p.groups site declared) w := by
  obtain ⟨typeParams, superclass, interfaces, constants, components, fields, methods⟩ :=
    subset_groups site declared p
  cases written with
  | typeParam member => exact covers_of_mem (typeParams (List.mem_map_of_mem member))
  | superClass isClass given => exact (covers_superclassGroups isClass given).mono superclass
  | interface member => exact covers_of_mem (interfaces (List.mem_map_of_mem member))
  | constant isEnum member =>
      exact covers_of_mem (constants (subset_constantGroups isEnum (List.mem_map_of_mem member)))
  | component isRecord member =>
      exact covers_of_mem
        (components (subset_componentGroups isRecord (List.mem_map_of_mem member)))
  | field split fresh => exact (covers_fieldGroups split fresh).mono fields
  | method member => exact covers_of_mem (methods (List.mem_map_of_mem member))

end DeclPlan

/-! ### Units -/

namespace UnitPlan

/-- **What is written in a unit** that declares `type`, at any depth.  Of the units nested
in another one, those with usable names are in their place, and of those with the same
name the first one. -/
inductive Writes : TypeRef → PlanSite → UnitPlan → CheckGroup → Prop
  | here {type : TypeRef} {site : PlanSite} {u : UnitPlan} {w : CheckGroup}
      (own : u.toDeclPlan.Writes site type.innerName w) : Writes type site u w
  | deeper {type : TypeRef} {site : PlanSite} {u v : UnitPlan} {before after : List UnitPlan}
      {w : CheckGroup} (split : u.nested = before ++ v :: after)
      (usable : Identifier.IsUsable v.nestedName)
      (fresh : v.nestedName ∉ before.map fun b => b.nestedName)
      (inner : Writes (type.nested v.nestedName) (site.inside v.nestedName) v w) :
      Writes type site u w

variable {type outer : TypeRef} {u : UnitPlan} {w : CheckGroup}

/-- A nested unit with a usable name of its own is looked at. -/
theorem subset_nestedGroups {before after : List UnitPlan}
    (usable : Identifier.IsUsable u.nestedName)
    (fresh : u.nestedName ∉ before.map fun b => b.nestedName) :
    u.groups (outer.nested u.nestedName) (site.inside u.nestedName) ⊆
      nestedGroups outer site [] (before ++ u :: after) := by
  have passed : (u.nestedGroup site
      ((before.map fun b => b.nestedName).reverse ++ [])).problem? = none := by
    rw [DeclPlan.nestedGroup, CheckGroup.problem?_cons (PlanSite.problem?_name usable _ _ _),
      CheckGroup.problem?_cons (PlanSite.problem?_rule (not_contains_iff.mpr fresh) _ _ _)]
    rfl
  rw [nestedGroups_eq]
  refine List.Subset.trans ?_ (subset_flatMapAfter _ _ _ before u after)
  exact List.Subset.trans (List.subset_cons_self _ _) (subset_headed passed)

/-- **Every member** of a unit that is in its place is looked at, at any depth. -/
theorem covers_groups (written : u.Writes type site w) : Covers (u.groups type site) w := by
  induction written with
  | here own =>
      rw [groups_eq]
      exact (DeclPlan.covers_groups own).mono (List.subset_append_left _ _)
  | deeper split usable fresh inner ih =>
      -- The groups of the unit in between contain those of the nested one.
      rw [groups_eq, split]
      refine ih.mono (List.subset_append_of_subset_right _ ?_)
      exact subset_nestedGroups usable fresh

/-! ### Files -/

/-- **What is written in a unit on its own**: what is written in its declaration, and its
imports. -/
inductive FileWrites (site : PlanSite) (t : TypeRef) (u : UnitPlan) : CheckGroup → Prop
  | decl {w : CheckGroup} (inner : u.Writes t (site.inside u.type) w) : FileWrites site t u w
  | imported {spec : String} (member : spec ∈ u.imports) :
      FileWrites site t u ⟨site.inside u.type, [.type spec "import"]⟩

theorem covers_fileGroups {t : TypeRef} (named : u.IsNamed t) (written : u.FileWrites site t w) :
    Covers (u.fileGroups site) w := by
  rw [fileGroups_of_isNamed named]
  cases written with
  | decl inner =>
      refine (covers_groups inner).mono ?_
      exact List.subset_cons_of_subset _ (List.subset_append_left _ _)
  | imported member =>
      refine covers_of_mem (List.mem_cons_of_mem _ (List.mem_append_right _ ?_))
      exact List.mem_map_of_mem member

end UnitPlan

/-! ### Manifests -/

namespace ManifestPlan

/-- **What is written in a manifest in its place.**  A unit is in its place when it is
named like a class, and of units with the same name the first one is. -/
inductive Writes (site : PlanSite) (m : ManifestPlan) (w : CheckGroup) : Prop
  | inUnit {before after : List UnitPlan} {u : UnitPlan} {t : TypeRef}
      (split : m.units = before ++ u :: after) (named : u.IsNamed t)
      (fresh : u.key ∉ before.map UnitPlan.key) (inner : u.FileWrites site t w)

variable {m : ManifestPlan} {w : CheckGroup}

/-- **Every member** of a manifest that is in its place is looked at. -/
theorem covers_groups (written : m.Writes site w) : Covers (m.groups site) w := by
  obtain ⟨split, named, fresh, inner⟩ := written
  rw [groups, split]
  refine (UnitPlan.covers_fileGroups named inner).mono ?_
  refine List.Subset.trans ?_ (subset_flatMapAfter _ _ _ _ _ _)
  exact subset_headed
    (CheckGroup.problem?_cons (PlanSite.problem?_rule (not_contains_iff.mpr fresh) _ _ _))

/-- A manifest in which a check fails is refused. -/
theorem exists_accept_eq_error (faulty : (m.groups site).filterMap CheckGroup.problem? ≠ []) :
    ∃ e, m.accept site = .error e := by
  rw [← (m.report_build site).problems_eq] at faulty
  rw [accept]
  cases built : m.build site with
  | fine units =>
      rw [built] at faulty
      exact (faulty rfl).elim
  | flawed first others => exact ⟨_, rfl⟩

/-- **The problems of a refused manifest** are those of its groups, in their order. -/
theorem diagnostics_accept {e : ManifestError} (refused : m.accept site = .error e) :
    e.diagnostics = (m.groups site).filterMap CheckGroup.problem? := by
  rw [← (m.report_build site).problems_eq]
  rw [accept] at refused
  cases built : m.build site with
  | fine units =>
      rw [built] at refused
      cases refused
  | flawed first others =>
      rw [built] at refused
      cases refused
      exact ManifestError.diagnostics_ofDiagnostics first others

/-- **Of what is written in one member**, the first problem is reported.  Where a check
fails, the manifest is refused, and among its problems is that of the check, or that of
a check before it in the same member. -/
theorem accept_reports (m : ManifestPlan) (site : PlanSite) (w : CheckGroup)
    (written : m.Writes site w) (before after : List Check) (check : Check)
    (split : w.checks = before ++ check :: after) (problem : Diagnostic)
    (fails : w.site.problem? check = some problem) :
    ∃ e, m.accept site = .error e ∧ ∃ shown ∈ e.diagnostics,
      shown = problem ∨ ∃ earlier ∈ before, w.site.problem? earlier = some shown := by
  obtain ⟨other, member, same⟩ := covers_groups written
  have first : w.problem? = (before.findSome? w.site.problem?).or (some problem) := by
    rw [CheckGroup.problem?, split, List.findSome?_append, List.findSome?_cons, fails]
  -- Either way the member has a problem; which one is asked at the end.
  obtain ⟨shown, found⟩ : ∃ shown, w.problem? = some shown := by
    rw [first]
    cases before.findSome? w.site.problem? with
    | none => exact ⟨problem, rfl⟩
    | some shown => exact ⟨shown, rfl⟩
  have listed : shown ∈ (m.groups site).filterMap CheckGroup.problem? :=
    List.mem_filterMap.mpr ⟨other, member, same.trans found⟩
  obtain ⟨e, refused⟩ := exists_accept_eq_error (List.ne_nil_of_mem listed)
  refine ⟨e, refused, shown, ?_, ?_⟩
  · rwa [diagnostics_accept refused]
  · rw [found] at first
    cases earlier : before.findSome? w.site.problem? with
    | none =>
        rw [earlier] at first
        cases first
        exact .inl rfl
    | some hit =>
        rw [earlier] at first
        cases first
        exact .inr (List.exists_of_findSome?_eq_some earlier)

/-! A class with a field in which both the name and the type are wrong. -/

def hasty : UnitPlan where
  type := "com.foo.Flag"
  fields := [{ name := "class", type := "my-type" }]

theorem hasty_isNamed : hasty.IsNamed { qualifier := some "com.foo", name := "Flag" } where
  reads := TypeRef.readNamed_of_plain (by decide) (by decide) (by decide)
  plain := rfl
  usable := ⟨by decide, by decide⟩

/-- The problem of the type `my-type` of the field. -/
def hastyProblem : Diagnostic where
  file := "jgen.toml"
  span := none
  fault := .invalidType "my-type" "field 'class' in 'com.foo.Flag'"
    (.badSegment "my-type" .badCharacter)

theorem problem?_hasty : PlanSite.problem? ⟨"", "jgen.toml", ["com.foo.Flag"]⟩
    (.type "my-type" "field 'class'") = some hastyProblem := by
  have flawed : TypeRef.readNamed "my-type" = .error (.badSegment "my-type" .badCharacter) :=
    TypeRef.readNamed_of_plain (by decide) (by decide) (by decide)
  rw [PlanSite.problem?, PlanSite.readType, flawed]
  rfl

theorem writes_hasty : ManifestPlan.Writes ⟨"", "jgen.toml", []⟩ ⟨{}, [hasty]⟩
    ⟨⟨"", "jgen.toml", ["com.foo.Flag"]⟩,
      FieldPlan.checks .ofClass { name := "class", type := "my-type" }⟩ :=
  .inUnit (List.nil_append _).symm hasty_isNamed List.not_mem_nil
    (.decl (.here (.field (List.nil_append _).symm List.not_mem_nil)))

theorem accept_reports_hasty :
    ∃ e, (⟨{}, [hasty]⟩ : ManifestPlan).accept ⟨"", "jgen.toml", []⟩ = .error e ∧
      ∃ shown ∈ e.diagnostics, shown = hastyProblem ∨
        ∃ earlier ∈ [Check.name "class" "field" false],
          PlanSite.problem? ⟨"", "jgen.toml", ["com.foo.Flag"]⟩ earlier = some shown :=
  accept_reports _ _ _ writes_hasty [_] _ _ rfl _ problem?_hasty

/-- **A problem can be hidden**: the type of a field is wrong, but only that its name is
wrong is reported. -/
theorem accept_hides :
    ∃ e, (⟨{}, [hasty]⟩ : ManifestPlan).accept ⟨"", "jgen.toml", []⟩ = .error e ∧
      (∃ w, ManifestPlan.Writes ⟨"", "jgen.toml", []⟩ ⟨{}, [hasty]⟩ w ∧
        .type "my-type" "field 'class'" ∈ w.checks ∧
        w.site.problem? (.type "my-type" "field 'class'") = some hastyProblem) ∧
      e.diagnostics.map Diagnostic.fault = [.reservedWord "class" "field in 'com.foo.Flag'"] := by
  have problems := filterMap_groups_singleton {} hasty_isNamed ⟨"", "jgen.toml", []⟩
  obtain ⟨e, refused⟩ := exists_accept_eq_error (problems.trans_ne (by decide))
  refine ⟨e, refused, ⟨_, writes_hasty, ?_, problem?_hasty⟩, ?_⟩
  · exact List.mem_cons_of_mem _ List.mem_cons_self
  · rw [diagnostics_accept refused, problems]
    rfl

end ManifestPlan

end JavaScaffold
