import JavaScaffold.Proofs.Accessor
import JavaScaffold.Proofs.Manifest.Passed
import JavaScaffold.Proofs.Text.Trim

/-!
# The names in an accepted manifest

Every name that a manifest declares is checked where it is planned, and comes out under
the same name.  The check lets the empty name through; any other name that comes out is
legal.  The names of accessors are made up from those of the fields and not checked at
all.

## Main Definitions

* `Identifier.IsLegalIfGiven` — the names that pass the check of a manifest
* `DeclPlan.NamesLegal` — what is known about all the names in a declaration

## Main Statements

* `UnitPlan.Stands.namesLegal` — the names in a declaration that has passed
* `ManifestPlan.accept_names_legal` — the names in an accepted manifest, at any depth
* `ManifestPlan.accept_names_illegal` — both ways in which a name can be illegal
-/

namespace JavaScaffold

variable {site : PlanSite}

/-! ### Constants -/

/-- **The name of a constant** stays the same when the blanks around the constant are
taken away. -/
theorem DeclPlan.constantName_trimmed (c : String) :
    constantName (Text.trimmed c) = constantName c := by
  have passed : ∀ cs : List Char, Text.isBlankText cs = true →
      ∀ d ∈ cs, (d != '(') = true := by
    intro cs blank d member
    rw [bne_iff_ne]
    rintro rfl
    exact Text.not_mem_of_isBlankText blank rfl member
  obtain ⟨front, back, blankFront, blankBack, parts⟩ := Text.exists_pads c.toList
  apply String.toList_injective
  simp only [constantName, Text.toList_trimmed, Text.toList_beforeFirst]
  generalize Text.trim c.toList = middle at parts
  rw [parts, List.append_assoc, List.takeWhile_append_of_pos (passed front blankFront),
    List.takeWhile_append, List.takeWhile_eq_self_iff.mpr (passed back blankBack)]
  split
  · next whole =>
      -- There are no arguments, so the blanks behind the name are those of the constant.
      rw [← List.append_assoc, Text.trim_pad blankFront middle blankBack,
        (List.takeWhile_prefix _).eq_of_length whole]
  · rw [Text.trim_blanks_append blankFront]

/-! ### Legal names -/

/-- A name that **is legal if it is given** at all. -/
def Identifier.IsLegalIfGiven (allowReserved : Bool) (name : String) : Prop :=
  name ≠ "" → IsLegal allowReserved name

/-- What is known about the names in a method that is planned: a method has a name, and
the name is legal. -/
structure Method.NamesLegal (m : Method) : Prop where
  name : m.isConstructor = false → Identifier.IsLegal false m.name
  typeParams : ∀ t ∈ m.typeParams, Identifier.IsLegalIfGiven false t.name
  params : ∀ q ∈ m.params, Identifier.IsLegalIfGiven false q.name

/-- What is known about the name of an accessor of the field `f`: its characters are those
of the field's name in upper case, and that can be wrong only beyond ASCII. -/
structure Method.AccessorLegal (f : Field) (m : Method) : Prop where
  made : m = f.getter ∨ m = f.setter
  legal_iff : Identifier.IsLegal false m.name ↔
    ∀ c ∈ Accessor.capitalizedText f.name.toList, Identifier.isPart c = true
  legal_of_ascii : (∀ c ∈ f.name.toList.head?, c.toNat < 128) → Identifier.IsLegal false m.name

/-- **What is known about all the names** that a declaration introduces, where `p` is the
plan of the declaration. -/
structure DeclPlan.NamesLegal (p : DeclPlan) (d : Outline) : Prop where
  declared : Identifier.IsLegalIfGiven false d.declaredName
  typeParams : ∀ t ∈ d.typeParams, Identifier.IsLegalIfGiven false t.name
  constants : ∀ c ∈ d.constants, Identifier.IsLegalIfGiven false (constantName c)
  components : ∀ c ∈ d.components, Identifier.IsLegalIfGiven false c.name
  /-- Only a field that says so may have a reserved word as its name. -/
  fields : List.Forall₂ (fun f g => g.name = f.name ∧
    Identifier.IsLegalIfGiven f.allowReserved g.name) p.fields d.fields
  /-- The planned methods come first, then the accessors. -/
  methods : ∃ own extra, d.methods = own ++ extra ∧ own.length = p.methods.length ∧
    (∀ m ∈ own, m.NamesLegal) ∧ ∀ m ∈ extra, ∃ f ∈ d.fields, m.AccessorLegal f

/-! ### Members -/

variable {t : TypeParam} {p : TypeParamPlan} {c : Param} {q : ParamPlan} {m : Method}
  {r : MethodPlan}

theorem TypeParamPlan.Yields.legal (yields : p.Yields t)
    (passed : ∀ check ∈ p.checks, site.problem? check = none) :
    Identifier.IsLegalIfGiven false t.name := by
  rw [yields.name]
  exact PlanSite.problem?_name_iff_isLegal.mp (passed _ List.mem_cons_self)

theorem ParamPlan.Yields.legal {role : String} (yields : q.Yields c)
    (passed : ∀ check ∈ q.checks role, site.problem? check = none) :
    Identifier.IsLegalIfGiven false c.name := by
  rw [yields.name]
  exact PlanSite.problem?_name_iff_isLegal.mp (passed _ List.mem_cons_self)

/-- The names in a method that has passed. -/
theorem MethodPlan.Yields.legal {kind : DeclKind} {declared : String} (yields : r.Yields declared m)
    (passed : ∀ check ∈ r.checks kind declared, site.problem? check = none) : m.NamesLegal := by
  simp only [checks, List.forall_mem_append] at passed
  obtain ⟨heading, -, typeParams, params, -⟩ := passed
  refine ⟨fun ordinary => ?_, fun t member => ?_, fun c member => ?_⟩
  · rw [yields.isConstructor] at ordinary
    rw [yields.name, chosenName, ordinary, if_neg Bool.false_ne_true]
    rw [headingChecks, ordinary, if_neg Bool.false_ne_true, nameChecks] at heading
    have given := PlanSite.problem?_rule_eq_none_iff.mp (heading _ List.mem_cons_self)
    have legal := PlanSite.problem?_name_iff_isLegal.mp
      (heading _ (List.mem_cons_of_mem _ List.mem_cons_self))
    refine legal fun empty => ?_
    simp [empty] at given
  · obtain ⟨p, place, yields⟩ := exists_mem_zip yields.typeParams member
    exact yields.legal (List.forall_mem_flatMap.mp typeParams p (List.of_mem_zip place).1)
  · obtain ⟨q, place, yields⟩ := exists_mem_zip yields.params member
    exact yields.legal (List.forall_mem_flatMap.mp params q (List.of_mem_zip place).1)

/-- The names of the accessors of a field. -/
theorem Field.accessorLegal {f : Field} (flawless : Identifier.flaw? f.name.toList = none)
    (member : m ∈ f.accessors) : m.AccessorLegal f := by
  have made := eq_of_mem_accessors member
  have legal_iff : Identifier.IsLegal false m.name ↔
      ∀ c ∈ Accessor.capitalizedText f.name.toList, Identifier.isPart c = true := by
    rcases made with rfl | rfl
    · exact Accessor.isLegal_getter f.isFlag
    · exact Accessor.isLegal_setter
  exact ⟨made, legal_iff, fun ascii =>
    legal_iff.mpr (Accessor.isPart_capitalizedText flawless ascii)⟩

/-! ### Declarations -/

namespace DeclPlan

variable {declared : String} {p : DeclPlan} {type : TypeRef} {d : Outline}

theorem legal_constants (passed : ∀ g ∈ p.constantGroups site declared, g.problem? = none) :
    ∀ c ∈ p.constants, Identifier.IsLegalIfGiven false (constantName c) := by
  intro c member
  have check := CheckGroup.passed_of_map (passed_of_headed passed) c member _ List.mem_cons_self
  exact PlanSite.problem?_name_iff_isLegal.mp check

theorem passed_components (passed : ∀ g ∈ p.componentGroups site declared, g.problem? = none) :
    ∀ c ∈ p.components, ∀ check ∈ c.checks "record component", site.problem? check = none :=
  CheckGroup.passed_of_map (passed_of_headed passed)

/-- The checks of a field have passed, whichever fields come before it. -/
theorem passed_fields
    (passed : ∀ g ∈ flatMapAfter FieldPlan.name
      (fun earlier f => [fieldGroup site p.kind declared earlier f]) [] p.fields,
      g.problem? = none) :
    ∀ f ∈ p.fields, ∀ check ∈ f.checks p.kind, site.problem? check = none := by
  intro f member
  obtain ⟨before, after, split⟩ := List.append_of_mem member
  exact (passed_field passed split).2

end DeclPlan

theorem FieldPlan.Yields.legal {kind : DeclKind} {g : FieldPlan} {f : Field}
    (yields : g.Yields kind f) (passed : ∀ check ∈ g.checks kind, site.problem? check = none) :
    Identifier.IsLegalIfGiven g.allowReserved f.name := by
  rw [yields.name]
  exact PlanSite.problem?_name_iff_isLegal.mp (passed _ List.mem_cons_self)

/-- **The names in a declaration that has passed.** -/
theorem UnitPlan.Stands.namesLegal {type : TypeRef} {u : UnitPlan} {d : TypeDecl}
    (stands : u.Stands type site d) : u.toDeclPlan.NamesLegal d.toOutline := by
  have outline := stands.outline
  have passed := stands.passed_outline
  obtain ⟨ofTypeParams, -, -, ofConstants, ofComponents, ofFields, ofMethods⟩ :=
    DeclPlan.subset_groups site type.innerName u.toDeclPlan
  have typeParams := CheckGroup.passed_of_map fun g member => passed g (ofTypeParams member)
  have constants := DeclPlan.legal_constants fun g member => passed g (ofConstants member)
  have components := DeclPlan.passed_components fun g member => passed g (ofComponents member)
  have fields := DeclPlan.passed_fields fun g member => passed g (ofFields member)
  have methods := CheckGroup.passed_of_map fun g member => passed g (ofMethods member)
  refine ⟨?declared, ?typeParams, ?constants, ?components, ?fields, ?methods⟩
  case declared =>
    intro given
    rw [Outline.declaredName, outline.type] at given ⊢
    exact Identifier.isLegal_iff.mpr
      ⟨given, fun _ => stands.usable.free, stands.usable.flawless⟩
  case typeParams =>
    intro t member
    obtain ⟨q, place, yields⟩ := exists_mem_zip outline.typeParams member
    exact yields.legal (typeParams q (List.of_mem_zip place).1)
  case constants =>
    intro c member
    rw [outline.constants, List.mem_map] at member
    obtain ⟨written, planned, rfl⟩ := member
    rw [DeclPlan.constantName_trimmed]
    exact constants written planned
  case components =>
    intro c member
    obtain ⟨q, place, yields⟩ := exists_mem_zip outline.components member
    exact yields.legal (components q (List.of_mem_zip place).1)
  case fields =>
    refine List.forall₂_iff_zip.mpr ⟨outline.fields.length_eq, fun {g f} place => ?_⟩
    have yields := (List.forall₂_iff_zip.mp outline.fields).2 place
    exact ⟨yields.name, yields.legal (fields g (List.of_mem_zip place).1)⟩
  case methods =>
    obtain ⟨own, extra, all, yields, tail, -⟩ := outline.methods
    refine ⟨own, extra, all, yields.length_eq.symm, fun m member => ?_, fun m member => ?_⟩
    · obtain ⟨q, place, yields⟩ := exists_mem_zip yields member
      exact yields.legal (methods q (List.of_mem_zip place).1)
    · obtain ⟨f, found, made⟩ := List.mem_flatMap.mp (tail.sublist.subset member)
      obtain ⟨g, place, yields⟩ := exists_mem_zip outline.fields found
      have check := fields g (List.of_mem_zip place).1 _ List.mem_cons_self
      refine ⟨f, found, f.accessorLegal ?_ made⟩
      rw [yields.name]
      exact (PlanSite.problem?_name_eq_none_iff.mp check).2

/-! ### Manifests -/

namespace ManifestPlan

/-- **The names in an accepted manifest.**  Every declaration of a file, at any depth,
stands for a unit at the same place of the manifest, and its names are checked there: they
are legal unless they are empty.  A method always has a name.  The accessors, which are not
checked, have legal names when the fields start with an ASCII character. -/
theorem accept_names_legal (m : ManifestPlan) (site : PlanSite) (manifest : Manifest)
    (accepted : m.accept site = .ok manifest) :
    List.Forall₂ (fun u file => ∀ d, (d = file.decl ∨ file.decl.Encloses d) →
      ∃ v, UnitPlan.Within v d u file.decl ∧ v.toDeclPlan.NamesLegal d.toOutline)
      m.units manifest.units := by
  refine (stands_of_accept accepted).imp fun u file has d held => ?_
  obtain ⟨t, -, stands⟩ := has
  obtain ⟨v, type, site', within, inner⟩ := stands.exists_within held
  exact ⟨v, within, inner.namesLegal⟩

/-- A class with a field, accessors and an enumeration in it. -/
def door : ManifestPlan where
  units := [{
    type := "com.foo.Door"
    fields := [{ name := "open", type := "boolean" }]
    methods := [{ name := "knock", params := [{ name := "times", type := "int" }] }]
    hasAccessors := true
    nested := [{ kind := .ofEnum, type := " Side ", constants := ["IN", "OUT (1)"] }] }]

theorem accept_names_legal_door :
    ∃ manifest, door.accept ⟨"", "jgen.toml", []⟩ = .ok manifest ∧
      List.Forall₂ (fun u file => ∀ d, (d = file.decl ∨ file.decl.Encloses d) →
        ∃ v, UnitPlan.Within v d u file.decl ∧ v.toDeclPlan.NamesLegal d.toOutline)
        door.units manifest.units := by
  obtain ⟨manifest, accepted, -⟩ :
      ∃ manifest, door.accept ⟨"", "jgen.toml", []⟩ = .ok manifest ∧ manifest.units.length = 1 :=
    exists_eq_ok (by decide +kernel)
  exact ⟨manifest, accepted, accept_names_legal _ _ manifest accepted⟩

/-- A class with a field without a name, and one whose name has a capital form of two
characters. -/
def faceless : ManifestPlan where
  units := [{
    type := "com.foo.Faceless"
    fields := [{ name := "", type := "int" }, { name := "ǰ", type := "int" }]
    hasAccessors := true }]

/-- **An accepted manifest can declare illegal names**: that of a field, which is empty,
and that of an accessor, in which a mark stands behind a letter. -/
theorem accept_names_illegal :
    ∃ manifest, faceless.accept ⟨"", "jgen.toml", []⟩ = .ok manifest ∧
      ∃ file ∈ manifest.units,
        (∃ f ∈ file.decl.fields, ∀ allowReserved, ¬ Identifier.IsLegal allowReserved f.name) ∧
        ∃ m ∈ file.decl.methods, m.isConstructor = false ∧ ¬ Identifier.IsLegal false m.name := by
  obtain ⟨manifest, accepted, names⟩ :
      ∃ manifest, faceless.accept ⟨"", "jgen.toml", []⟩ = .ok manifest ∧
        (manifest.units.map fun file => (file.decl.fields.map Field.name,
          file.decl.methods.map fun m => (m.isConstructor, m.name))) =
        [(["", "ǰ"], [(false, "get"), (false, "set"), (false, "getJ\u030c"),
          (false, "setJ\u030c")])] :=
    exists_eq_ok (by decide +kernel)
  simp only [List.map_eq_singleton_iff, Prod.mk.injEq] at names
  obtain ⟨file, units, fields, methods⟩ := names
  have unnamed : "" ∈ file.decl.fields.map Field.name := by
    rw [fields]
    exact List.mem_cons_self
  have marked : (false, "getJ\u030c") ∈
      file.decl.methods.map fun m => (m.isConstructor, m.name) := by
    rw [methods]
    simp
  obtain ⟨f, field, empty⟩ := List.mem_map.mp unnamed
  obtain ⟨m, method, same⟩ := List.mem_map.mp marked
  obtain ⟨ordinary, name⟩ := Prod.mk.inj same
  refine ⟨manifest, accepted, file, ?_, ⟨f, field, fun allowReserved legal => ?_⟩,
    m, method, ordinary, fun legal => ?_⟩
  · rw [units]
    exact List.mem_cons_self
  · exact (Identifier.isLegal_iff.mp legal).1 empty
  · rw [name, Identifier.isLegal_iff] at legal
    exact absurd legal.2.2 (by decide +kernel)

end ManifestPlan

end JavaScaffold
