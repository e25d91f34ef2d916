import JavaScaffold.Manifest.Basic
import JavaScaffold.Proofs.Manifest.Units
import JavaScaffold.Proofs.Nesting
import Mathlib.Data.List.Nodup

/-!
# What an accepted manifest has passed

A manifest is accepted when no check fails in it, so every check that is asked has
passed.  What the checks promise about a unit holds of the declaration that is built
from it, and the same goes for the units nested in it, at any depth.

## Main Definitions

* `Manifest.Describes` — a text and the manifest that is planned in it
* `UnitPlan.Stands` — a unit that has passed, and the declaration built from it
* `UnitPlan.Within` — a unit and a declaration at the same place of two trees

## Main Statements

* `Manifest.parse_eq_ok_iff` — a text is accepted when the manifest planned in it is
* `UnitPlan.Stands.exists_within` — every declaration of a unit that has passed stands for
  a unit of its own, which has passed
* `ManifestPlan.nodup_keys_of_accept`, `ManifestPlan.stands_of_accept` — the units of an
  accepted manifest

## Design Notes

`Stands` keeps the problems and the results of one unit together, because neither says
enough alone: the results do not show which check came before them, and the checks do not
know what has been built.
-/

namespace JavaScaffold

variable {site : PlanSite}

/-! ### Texts -/

/-- The manifest `m` is planned in the text `source`. -/
def Manifest.Describes (source : String) (m : ManifestPlan) : Prop :=
  ∃ entries, Toml.parse source = some entries ∧ Schema.manifest entries = .ok m

/-- **A text is accepted** when a manifest is planned in it that is accepted. -/
theorem Manifest.parse_eq_ok_iff {source file : String} {manifest : Manifest} :
    Manifest.parse source file = .ok manifest ↔
      ∃ m, Describes source m ∧ m.accept { source := source, file := file } = .ok manifest := by
  unfold Manifest.parse Describes
  constructor
  · intro accepted
    cases read : Toml.parse source with
    | none => simp [read] at accepted
    | some entries =>
        cases shaped : Schema.manifest entries with
        | error cause => simp [read, shaped] at accepted
        | ok m => exact ⟨m, ⟨entries, rfl, shaped⟩, by simpa [read, shaped] using accepted⟩
  · rintro ⟨m, ⟨entries, read, shaped⟩, accepted⟩
    simpa [read, shaped] using accepted

/-! ### Fields -/

/-- What is looked at in a field of a declaration that has passed: its name is new, and all
its own checks have passed. -/
theorem DeclPlan.passed_field {p : DeclPlan} {declared : String}
    (passed : ∀ g ∈ flatMapAfter FieldPlan.name
      (fun earlier f => [fieldGroup site p.kind declared earlier f]) [] p.fields,
      g.problem? = none)
    {before after : List FieldPlan} {f : FieldPlan} (split : p.fields = before ++ f :: after) :
    f.name ∉ before.map FieldPlan.name ∧ ∀ check ∈ f.checks p.kind, site.problem? check = none := by
  have looked := subset_flatMapAfter FieldPlan.name
    (fun earlier f => [fieldGroup site p.kind declared earlier f]) [] before f after
  rw [← split] at looked
  have group := CheckGroup.problem?_eq_none_iff.mp (passed _ (looked List.mem_cons_self))
  obtain ⟨rule, checks⟩ := List.forall_mem_cons.mp group
  exact ⟨not_contains_iff.mp (PlanSite.problem?_rule_eq_none_iff.mp rule), checks⟩

/-! ### Nested units -/

/-- Each item of the second list has a partner in the first one. -/
theorem exists_mem_zip {α β : Type} {R : α → β → Prop} {as : List α} {bs : List β}
    (all : List.Forall₂ R as bs) {b : β} (member : b ∈ bs) :
    ∃ a, (a, b) ∈ as.zip bs ∧ R a b := by
  obtain ⟨same, each⟩ := List.forall₂_iff_zip.mp all
  rw [← List.map_snd_zip same.ge, List.mem_map] at member
  obtain ⟨⟨a, b⟩, found, rfl⟩ := member
  exact ⟨a, found, each found⟩

/-- Names are all different when each of them comes for the first time. -/
theorem nodup_of_fresh {α : Type} {name : α → String} {as : List α}
    (fresh : ∀ before a after, as = before ++ a :: after → name a ∉ before.map name) :
    (as.map name).Nodup := by
  induction as using List.reverseRecOn with
  | nil => exact List.nodup_nil
  | append_singleton as a ih =>
      have last := fresh as a [] rfl
      have others := ih fun before b after split => fresh before b (after ++ [a]) (by simp [split])
      rw [List.map_append, List.map_singleton, ← List.concat_eq_append]
      exact others.concat last

namespace UnitPlan

variable {type outer : TypeRef} {u v w : UnitPlan} {d e f : TypeDecl}

/-- **A unit that has passed**, and the declaration of `type` that is built from it. -/
structure Stands (type : TypeRef) (site : PlanSite) (u : UnitPlan) (d : TypeDecl) : Prop where
  /-- The declared name has passed. -/
  usable : Identifier.IsUsable type.innerName
  /-- Every check in the unit has passed. -/
  passed : ∀ g ∈ u.groups type site, g.problem? = none
  yields : u.Yields type d

/-- The unit `v` and the declaration `e` **stand at the same place** of two trees: at the
top of them, or of two subtrees at the same place. -/
inductive Within (v : UnitPlan) (e : TypeDecl) : UnitPlan → TypeDecl → Prop
  | top : Within v e v e
  | nested {u w : UnitPlan} {d f : TypeDecl} (place : (w, f) ∈ u.nested.zip d.nested)
      (inner : Within v e w f) : Within v e u d

theorem yields_iff : u.Yields type d ↔
    u.toDeclPlan.Yields type d.toOutline ∧ YieldsAll type u.nested d.nested := by
  obtain ⟨p, nested⟩ := u
  rw [Yields]

/-- What a unit stands for, apart from what is nested in it. -/
theorem Stands.outline (stands : u.Stands type site d) :
    u.toDeclPlan.Yields type d.toOutline :=
  (yields_iff.mp stands.yields).1

/-- The checks of a unit, apart from those of what is nested in it. -/
theorem Stands.passed_outline (stands : u.Stands type site d) :
    ∀ g ∈ u.toDeclPlan.groups site type.innerName, g.problem? = none := by
  intro g member
  refine stands.passed g ?_
  rw [groups_eq]
  exact List.mem_append_left _ member

/-- **A method** of a declaration that has passed is planned, and has passed, or it is an
accessor. -/
theorem Stands.planned_or_accessor (stands : u.Stands type site d) {m : Method}
    (member : m ∈ d.methods) :
    (∃ p : MethodPlan, p.Yields type.innerName m ∧
      ∀ check ∈ p.checks u.kind type.innerName, site.problem? check = none) ∨
      ∃ f ∈ d.fields, m ∈ f.accessors := by
  obtain ⟨own, extra, all, yields, tail, -⟩ := stands.outline.methods
  obtain ⟨-, -, -, -, -, -, ofMethods⟩ :=
    DeclPlan.subset_groups site type.innerName u.toDeclPlan
  have passed := CheckGroup.passed_of_map fun g here => stands.passed_outline g (ofMethods here)
  rw [all, List.mem_append] at member
  rcases member with planned | added
  · obtain ⟨p, place, yields⟩ := exists_mem_zip yields planned
    exact .inl ⟨p, yields, passed p (List.of_mem_zip place).1⟩
  · exact .inr (List.mem_flatMap.mp (tail.sublist.subset added))

theorem Stands.forall₂_nested (stands : u.Stands type site d) :
    List.Forall₂ (fun w f => w.Yields (type.nested w.nestedName) f) u.nested d.nested :=
  yieldsAll_iff.mp (yields_iff.mp stands.yields).2

/-- The name of a nested declaration is the one given to it. -/
theorem innerName_nested (outer : TypeRef) {name : String} (undotted : '.' ∉ name.toList) :
    (outer.nested name).innerName = name :=
  Text.afterLast_append outer.name undotted

/-- **A unit nested in one that has passed** has passed, and stands for the declaration at
its place. -/
theorem Stands.nested (stands : u.Stands type site d) (place : (w, f) ∈ u.nested.zip d.nested) :
    w.Stands (type.nested w.nestedName) (site.inside w.nestedName) f := by
  obtain ⟨before, after, split⟩ := List.append_of_mem (List.of_mem_zip place).1
  have looked := subset_flatMapAfter (fun u : UnitPlan => u.nestedName) (fun earlier u =>
    headed (u.nestedGroup site earlier)
      (u.fileGroup site :: u.groups (type.nested u.nestedName) (site.inside u.nestedName)))
    [] before w after
  rw [← split, ← nestedGroups_eq] at looked
  have passed : ∀ g, g ∈ nestedGroups type site [] u.nested → g.problem? = none := by
    intro g member
    refine stands.passed g ?_
    rw [groups_eq]
    exact List.mem_append_right _ member
  have named := passed _ (looked List.mem_cons_self)
  have nameCheck := CheckGroup.problem?_eq_none_iff.mp named _ List.mem_cons_self
  have usable := PlanSite.isUsable_of_problem?_name nameCheck
  have undotted := Identifier.dot_not_mem_of_flaw?_eq_none usable.flawless
  refine ⟨?_, fun g member => ?_, ?_⟩
  · rwa [innerName_nested type undotted]
  · refine passed g (looked ?_)
    rw [headed_of_passed named]
    exact List.mem_cons_of_mem _ (List.mem_cons_of_mem _ member)
  · exact (List.forall₂_iff_zip.mp stands.forall₂_nested).2 place

/-- **Every declaration** of a unit that has passed stands for a unit that has passed, and
the two are at the same place. -/
theorem Stands.exists_within (stands : u.Stands type site d) (held : e = d ∨ d.Encloses e) :
    ∃ v type' site', Within v e u d ∧ v.Stands type' site' e := by
  rcases held with rfl | enclosed
  · exact ⟨u, type, site, .top, stands⟩
  · induction enclosed generalizing u type site with
    | nested member =>
        obtain ⟨w, place, -⟩ := exists_mem_zip stands.forall₂_nested member
        exact ⟨w, _, _, .nested place .top, stands.nested place⟩
    | inside member _ ih =>
        obtain ⟨w, place, -⟩ := exists_mem_zip stands.forall₂_nested member
        obtain ⟨v, type', site', within, inner⟩ := ih (stands.nested place)
        exact ⟨v, type', site', .nested place within, inner⟩

/-! ### Units -/

/-- A unit that is built is put together from a declaration and its imports. -/
theorem exists_assemble_of_build {comments : List String} {file : CompilationUnit}
    (built : u.build comments site = .fine file) :
    ∃ type d ts, u.decl type (site.inside u.type) = .fine d ∧
      Checked.all (fun spec => Checked.ofExcept ((site.inside u.type).readType spec "import"))
        u.imports = .fine ts ∧
      file = u.assemble comments d ts := by
  rw [build, Checked.andThen_eq_fine_iff] at built
  obtain ⟨type, -, built⟩ := built
  rw [Checked.seq_eq, Checked.apply_eq_fine_iff, Checked.map_eq] at built
  obtain ⟨put, ts, assembled, given, rfl⟩ := built
  obtain ⟨d, here, rfl⟩ := Checked.map_eq_fine_iff.mp assembled
  exact ⟨type, d, ts, here, given, rfl⟩

/-- A unit whose type has passed is named like a class. -/
theorem exists_isNamed (passed : CheckGroup.problem? ⟨site, u.typeChecks⟩ = none) :
    ∃ t, u.IsNamed t := by
  have each := CheckGroup.problem?_eq_none_iff.mp passed
  obtain ⟨t, named⟩ := PlanSite.exists_of_problem?_type (each _ List.mem_cons_self)
  rw [typeChecks, named] at each
  have plain := each _ (List.mem_cons_of_mem _ List.mem_cons_self)
  have usable := each _ (List.mem_cons_of_mem _ (List.mem_cons_of_mem _ List.mem_cons_self))
  exact ⟨t, named, PlanSite.problem?_rule_eq_none_iff.mp plain,
    PlanSite.isUsable_of_problem?_name usable⟩

/-- The name of the class of a unit is the one that the unit declares. -/
theorem IsNamed.innerName_eq {t : TypeRef} (named : u.IsNamed t) : t.innerName = t.name :=
  Text.afterLast_of_not_mem (Identifier.dot_not_mem_of_flaw?_eq_none named.usable.flawless)

/-- A unit without problems has passed, whatever file has been built from it. -/
theorem exists_stands {comments : List String} {file : CompilationUnit}
    (passed : ∀ g ∈ u.fileGroups site, g.problem? = none) (yields : u.YieldsFile comments file) :
    ∃ t, u.IsNamed t ∧ u.Stands t (site.inside u.type) file.decl := by
  obtain ⟨t, named⟩ := exists_isNamed (passed _ List.mem_cons_self)
  obtain ⟨t', reads, yields⟩ := yields.decl
  -- The type is read twice, by the checks and by the declaration.
  have same : t' = t := by
    have parsed := (TypeRef.readNamed_eq_ok_iff.mp named.reads).2.1
    exact Except.ok.inj (reads.symm.trans parsed)
  subst same
  refine ⟨t', named, ?_, fun g member => passed g ?_, yields⟩
  · rw [named.innerName_eq]
    exact named.usable
  · rw [fileGroups_of_isNamed named]
    exact List.mem_cons_of_mem _ (List.mem_append_left _ member)

end UnitPlan

/-! ### Manifests -/

namespace ManifestPlan

variable {m : ManifestPlan} {manifest : Manifest}

theorem build_of_accept (accepted : m.accept site = .ok manifest) :
    m.build site = .fine manifest.units ∧ manifest.output = m.output := by
  unfold accept at accepted
  cases built : m.build site with
  | fine units =>
      simp only [built, Except.ok.injEq] at accepted
      subst accepted
      exact ⟨rfl, rfl⟩
  | flawed first others => simp [built] at accepted

/-- **In an accepted manifest** every check has passed. -/
theorem passed_of_accept (accepted : m.accept site = .ok manifest) :
    ∀ g ∈ m.groups site, g.problem? = none :=
  (m.report_build site).passed (build_of_accept accepted).1

/-- What is looked at in a unit of an accepted manifest. -/
theorem passed_unit (accepted : m.accept site = .ok manifest) {before after : List UnitPlan}
    {u : UnitPlan} (split : m.units = before ++ u :: after) :
    u.key ∉ before.map UnitPlan.key ∧ ∀ g ∈ u.fileGroups site, g.problem? = none := by
  have looked := subset_flatMapAfter UnitPlan.key (fun earlier p =>
    headed ⟨site, [.rule (!earlier.contains p.key)
      ("type '" ++ p.type ++ "' is declared by more than one unit") p.type]⟩ (p.fileGroups site))
    [] before u after
  rw [← split] at looked
  have first := passed_of_accept accepted _ (looked List.mem_cons_self)
  have rule := CheckGroup.problem?_eq_none_iff.mp first _ List.mem_cons_self
  refine ⟨not_contains_iff.mp (PlanSite.problem?_rule_eq_none_iff.mp rule), fun g member => ?_⟩
  exact passed_of_accept accepted g (looked (subset_headed first member))

/-- **The units of an accepted manifest** are told apart by their keys. -/
theorem nodup_keys_of_accept (accepted : m.accept site = .ok manifest) :
    (m.units.map UnitPlan.key).Nodup :=
  nodup_of_fresh fun _ _ _ split => (passed_unit accepted split).1

/-- **The units of an accepted manifest** have passed, one by one and in their order. -/
theorem stands_of_accept (accepted : m.accept site = .ok manifest) :
    List.Forall₂ (fun u file => ∃ t, u.IsNamed t ∧ u.Stands t (site.inside u.type) file.decl)
      m.units manifest.units := by
  have yields := (m.report_build site).good _ (build_of_accept accepted).1
  have passed : ∀ u ∈ m.units, ∀ g ∈ u.fileGroups site, g.problem? = none := by
    intro u member
    obtain ⟨before, after, split⟩ := List.append_of_mem member
    exact (passed_unit accepted split).2
  have both := (List.forall₂_and_left _ _).mpr ⟨passed, yields⟩
  exact both.imp fun u file has => UnitPlan.exists_stands has.1 has.2

end ManifestPlan

end JavaScaffold
