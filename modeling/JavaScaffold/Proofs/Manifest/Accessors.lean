import JavaScaffold.Proofs.Manifest.Unitwise

/-!
# The accessors in an accepted manifest

A class or an enumeration can ask for accessors of its fields.  They are put behind the
planned methods, field by field, and one whose name is taken is left out: that of a field
whose accessor has been planned, but also that of a field which comes behind another one
whose accessor is called the same.

## Main Definitions

* `DeclPlan.IsAccessed` — a declaration with accessors, and its plan

## Main Statements

* `UnitPlan.Within.exists_decl` — every declaration of a unit is built on its own
* `ManifestPlan.accept_accessors` — the accessors in an accepted manifest, at any depth
* `ManifestPlan.accept_accessors_lost` — a field that nothing writes

## Design Notes

The names of fields are checked against each other, those of accessors are not.  The fields
`on` and `On` are told apart, but the methods that write them have the same name, whatever
the types of the fields are.
-/

namespace JavaScaffold

variable {site : PlanSite}

/-! ### Declarations -/

/-- **A declaration with accessors.**  It is a class or an enumeration, its planned methods
come first, and behind them each field has its accessors unless their names are taken. -/
structure DeclPlan.IsAccessed (p : DeclPlan) (d : Outline) : Prop where
  kind : d.kind = .ofClass ∨ d.kind = .ofEnum
  methods : ∃ own extra, d.methods = own ++ extra ∧
    List.Forall₂ (MethodPlan.Yields d.type.innerName) p.methods own ∧
    ∀ before f after, d.fields = before ++ f :: after → f.IsAccessed own extra before

namespace DeclPlan

variable {p : DeclPlan} {type : TypeRef} {d : Outline} {declared : String}

/-- Accessors are added to the planned methods. -/
theorem Assembles.exists_withAccessors (assembles : p.Assembles type d)
    (asked : p.hasAccessors = true) :
    ∃ bare : Outline, d = bare.withAccessors ∧
      List.Forall₂ (MethodPlan.Yields type.innerName) p.methods bare.methods := by
  cases assembles with
  | mk _ _ _ _ _ methods' =>
      rw [assemble, if_pos asked]
      exact ⟨_, rfl, methods'⟩

/-- The fields of a declaration that has passed have different names. -/
theorem nodup_fields
    (passed : ∀ g ∈ flatMapAfter FieldPlan.name
      (fun earlier f => [fieldGroup site p.kind declared earlier f]) [] p.fields,
      g.problem? = none) : (p.fields.map FieldPlan.name).Nodup :=
  nodup_of_fresh fun _ _ _ split => (passed_field passed split).1

/-- The names of the fields are the planned ones. -/
theorem Yields.names_fields (yields : p.Yields type d) :
    d.fields.map Field.name = p.fields.map FieldPlan.name := by
  rw [← List.forall₂_eq_eq_eq, List.forall₂_map_left_iff, List.forall₂_map_right_iff]
  exact yields.fields.flip.imp fun f g same => same.name

/-- **A declaration that asks for accessors** has those whose names are free. -/
theorem isAccessed_of_outline (built : p.outline type site = .fine d)
    (asked : p.hasAccessors = true) : p.IsAccessed d := by
  have passed := (p.report_assembles type).passed built
  have assembles := (p.report_assembles type).good d built
  have yields := assembles.yields
  obtain ⟨bare, rfl, planned⟩ := assembles.exists_withAccessors asked
  obtain ⟨extra, added, -⟩ := bare.exists_accessorTail
  have distinct : (bare.fields.map Field.name).Nodup := by
    have names : bare.fields.map Field.name = p.fields.map FieldPlan.name := yields.names_fields
    rw [names]
    exact nodup_fields fun g member =>
      passed g ((p.subset_groups site type.innerName).2.2.2.2.2.1 member)
  refine ⟨?_, bare.methods, extra, added, ?_, fun before f after split => ?_⟩
  · have group : (p.accessorGroup site type.innerName).problem? = none :=
      passed _ (List.mem_append_right _ (List.mem_singleton_self _))
    have rule := PlanSite.problem?_rule_eq_none_iff.mp
      (CheckGroup.problem?_eq_none_iff.mp group _ List.mem_cons_self)
    rw [yields.kind]
    simpa [asked] using rule
  · rwa [yields.type]
  · exact Outline.isAccessed added distinct split

end DeclPlan

/-! ### Nested declarations -/

namespace UnitPlan

variable {type outer : TypeRef} {u v w : UnitPlan} {d e f : TypeDecl}

theorem decl_eq_fine (built : u.decl type site = .fine d) :
    u.outline type site = .fine d.toOutline ∧
      nestedDecls type site [] u.nested = .fine d.nested := by
  obtain ⟨p, nested⟩ := u
  rw [decl, Checked.seq_eq, Checked.apply_eq_fine_iff, Checked.map_eq] at built
  obtain ⟨put, ds, outlined, below, rfl⟩ := built
  obtain ⟨outline, here, rfl⟩ := Checked.map_eq_fine_iff.mp outlined
  exact ⟨here, below⟩

/-- A nested declaration is built on its own. -/
theorem decl_of_nestedDecls {earlier : List String} {us : List UnitPlan} {ds : List TypeDecl}
    (built : nestedDecls outer site earlier us = .fine ds) (place : (w, f) ∈ us.zip ds) :
    w.decl (outer.nested w.nestedName) (site.inside w.nestedName) = .fine f := by
  induction us generalizing earlier ds with
  | nil => cases place
  | cons u us ih =>
      rw [nestedDecls, Checked.seq_eq, Checked.apply_eq_fine_iff, Checked.map_eq] at built
      obtain ⟨put, rest, first, later, rfl⟩ := built
      obtain ⟨d, here, rfl⟩ := Checked.map_eq_fine_iff.mp first
      rcases List.mem_cons.mp place with same | behind
      · cases same
        obtain ⟨-, -, inner⟩ := Checked.andThen_eq_fine_iff.mp here
        exact (Checked.applyRight_eq_fine_iff.mp inner).2
      · exact ih later behind

/-- **Every declaration of a unit** is built on its own. -/
theorem Within.exists_decl (within : Within v e u d) (built : u.decl type site = .fine d) :
    ∃ type' site', v.decl type' site' = .fine e := by
  induction within generalizing type site with
  | top => exact ⟨type, site, built⟩
  | nested place _ ih => exact ih (decl_of_nestedDecls (decl_eq_fine built).2 place)

/-- The declaration of a file is built from its unit. -/
theorem exists_decl_of_build {comments : List String} {file : CompilationUnit}
    (built : u.build comments site = .fine file) :
    ∃ type site', u.decl type site' = .fine file.decl := by
  obtain ⟨type, d, ts, here, -, rfl⟩ := exists_assemble_of_build built
  rw [(u.isFileOf_assemble comments d ts).1]
  exact ⟨type, _, here⟩

end UnitPlan

/-! ### Manifests -/

namespace ManifestPlan

/-- **The accessors in an accepted manifest.**  Every declaration of a file, at any depth,
stands for a unit at the same place of the manifest.  If the unit asks for accessors, the
declaration is a class or an enumeration, and every field that is not static can be read,
and written unless it is final, by a method behind the planned ones, exactly when the name
of the method is that of no planned method and of no accessor of an earlier field. -/
theorem accept_accessors (m : ManifestPlan) (site : PlanSite) (manifest : Manifest)
    (accepted : m.accept site = .ok manifest) :
    List.Forall₂ (fun u file => ∀ d, (d = file.decl ∨ file.decl.Encloses d) →
      ∃ v, UnitPlan.Within v d u file.decl ∧
        (v.hasAccessors = true → v.toDeclPlan.IsAccessed d.toOutline))
      m.units manifest.units := by
  have stands := List.forall₂_iff_zip.mp (stands_of_accept accepted)
  refine List.forall₂_iff_zip.mpr ⟨stands.1, fun {u file} place d held => ?_⟩
  obtain ⟨t, -, passed⟩ := stands.2 place
  obtain ⟨v, -, -, within, -⟩ := passed.exists_within held
  have built := (UnitPlan.file?_eq_some_iff site).mp (file?_of_accept accepted place)
  obtain ⟨type, site', whole⟩ := UnitPlan.exists_decl_of_build built
  obtain ⟨type', site'', part⟩ := within.exists_decl whole
  exact ⟨v, within, DeclPlan.isAccessed_of_outline (UnitPlan.decl_eq_fine part).1⟩

/-- A class with two fields of different types, whose names differ in the case of their
first letter. -/
def lamp : ManifestPlan where
  units := [{
    type := "com.foo.Lamp"
    fields := [{ name := "on", type := "boolean" }, { name := "On", type := "int" }]
    hasAccessors := true }]

theorem accept_accessors_lamp :
    ∃ manifest, lamp.accept ⟨"", "jgen.toml", []⟩ = .ok manifest ∧
      List.Forall₂ (fun u file => ∀ d, (d = file.decl ∨ file.decl.Encloses d) →
        ∃ v, UnitPlan.Within v d u file.decl ∧
          (v.hasAccessors = true → v.toDeclPlan.IsAccessed d.toOutline))
        lamp.units manifest.units := by
  obtain ⟨manifest, accepted, -⟩ :
      ∃ manifest, lamp.accept ⟨"", "jgen.toml", []⟩ = .ok manifest ∧ manifest.units.length = 1 :=
    exists_eq_ok (by decide +kernel)
  exact ⟨manifest, accepted, accept_accessors _ _ manifest accepted⟩

/-- **A field can be without a method that writes it**: nothing is planned under the name
of that method, and there is none. -/
theorem accept_accessors_lost :
    ∃ manifest, lamp.accept ⟨"", "jgen.toml", []⟩ = .ok manifest ∧
      (∀ u ∈ lamp.units, u.hasAccessors = true ∧ u.methods.length = 0) ∧
      ∃ file ∈ manifest.units, file.decl.kind = .ofClass ∧
        ∃ f ∈ file.decl.fields, f.isStatic = false ∧ f.isFinal = false ∧
          ¬ ∃ m ∈ file.decl.methods, m.IsSetterOf f := by
  obtain ⟨manifest, accepted, fields, methods⟩ :
      ∃ manifest, lamp.accept ⟨"", "jgen.toml", []⟩ = .ok manifest ∧
        (manifest.units.map fun file => (file.decl.kind,
          file.decl.fields.map fun f => (f.name, f.isStatic, f.isFinal))) =
          [(.ofClass, [("on", false, false), ("On", false, false)])] ∧
        (manifest.units.map fun file => file.decl.methods.map fun m =>
          (m.name, m.params.map Param.name)) =
          [[("isOn", []), ("setOn", ["on"]), ("getOn", [])]] :=
    exists_eq_ok (by decide +kernel)
  simp only [List.map_eq_singleton_iff, Prod.mk.injEq] at fields
  obtain ⟨file, units, kind, fields⟩ := fields
  rw [units, List.map_singleton, List.singleton_inj] at methods
  have second : ("On", false, false) ∈
      file.decl.fields.map fun f => (f.name, f.isStatic, f.isFinal) := by
    rw [fields]
    simp
  obtain ⟨f, member, same⟩ := List.mem_map.mp second
  obtain ⟨name, static, final⟩ := Prod.mk.inj same |>.imp_right Prod.mk.inj
  refine ⟨manifest, accepted, by decide, file, units ▸ List.mem_singleton_self _, kind, f, member,
    static, final, ?_⟩
  rintro ⟨m, method, writes⟩
  -- A method for the second field would have a parameter of another name.
  obtain ⟨q, params, named, -⟩ := writes.params
  have listed : (m.name, m.params.map Param.name) ∈
      file.decl.methods.map fun m => (m.name, m.params.map Param.name) :=
    List.mem_map_of_mem (f := fun m : Method => (m.name, m.params.map Param.name)) method
  rw [methods, params, List.map_singleton, named, name] at listed
  simp at listed

end ManifestPlan

end JavaScaffold
