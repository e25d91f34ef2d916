import JavaScaffold.Proofs.Imports.Display
import JavaScaffold.Proofs.Manifest.Unitwise
import JavaScaffold.Proofs.Render.Printed

/-!
# Imports are used

The imports of a unit are collected from everything that its declarations refer to, and the
declarations are written with what their kind allows.  Both come to the same, because the
checks of a manifest leave nothing in a declaration that its kind does not write: a super
class is that of a class, components are those of a record, and a constructor has no result.

## Main Definitions

* `AllRead` — references that are read from some specifications
* `UnitPlan.typeSpecs` — the specifications of types in a unit, at any depth
* `HasBareWildcards` — a specification without text behind an unbounded wildcard
* `CompilationUnit.Uses` — an import is that of a node which is written short

## Main Statements

* `DeclPlan.Yields.allRead` — the references of a declaration are read from its plan
* `UnitPlan.Stands.exists_typedLine` — each of them is written in a line
* `ManifestPlan.uses_of_accept` — the imports of the files of an accepted plan
* `Manifest.parse_imports_used` — the imports of the files of a manifest
-/

namespace JavaScaffold

/-! ### Specifications -/

/-- **References that are read** from some of the specifications `specs`. -/
def AllRead (specs : List String) (ts : List TypeRef) : Prop :=
  ∀ t ∈ ts, ∃ spec ∈ specs, Reads spec t

namespace AllRead

variable {α β : Type} {specs more : List String} {ts us : List TypeRef}

theorem mono (all : AllRead specs ts) (fewer : us ⊆ ts) (larger : specs ⊆ more) :
    AllRead more us := by
  intro t member
  obtain ⟨spec, given, reads⟩ := all t (fewer member)
  exact ⟨spec, larger given, reads⟩

theorem append (first : AllRead specs ts) (second : AllRead more us) :
    AllRead (specs ++ more) (ts ++ us) := by
  intro t member
  rcases List.mem_append.mp member with here | there
  · exact first.mono (List.Subset.refl _) (List.subset_append_left _ _) t here
  · exact second.mono (List.Subset.refl _) (List.subset_append_right _ _) t there

/-- The references of items that stand for plans. -/
theorem flatMap {R : α → β → Prop} {f : α → List String} {g : β → List TypeRef} {as : List α}
    {bs : List β} (all : List.Forall₂ R as bs) (each : ∀ a b, R a b → AllRead (f a) (g b)) :
    AllRead (as.flatMap f) (bs.flatMap g) := by
  intro t member
  obtain ⟨b, found, inside⟩ := List.mem_flatMap.mp member
  obtain ⟨a, place, related⟩ := exists_mem_zip all found
  obtain ⟨spec, given, reads⟩ := each a b related t inside
  exact ⟨spec, List.mem_flatMap.mpr ⟨a, (List.of_mem_zip place).1, given⟩, reads⟩

theorem ofForall₂ (all : List.Forall₂ Reads specs ts) : AllRead specs ts := by
  intro t member
  obtain ⟨spec, place, reads⟩ := exists_mem_zip all member
  exact ⟨spec, (List.of_mem_zip place).1, reads⟩

/-- A reference for each item that stands for a plan. -/
theorem map {R : α → β → Prop} {f : α → String} {g : β → TypeRef} {as : List α} {bs : List β}
    (all : List.Forall₂ R as bs) (each : ∀ a b, R a b → Reads (f a) (g b)) :
    AllRead (as.map f) (bs.map g) :=
  ofForall₂ (List.forall₂_map_left_iff.mpr (List.forall₂_map_right_iff.mpr (all.imp each)))

theorem ofRel {spec : Option String} {t : Option TypeRef} (related : Option.Rel Reads spec t) :
    AllRead spec.toList t.toList := by
  cases related with
  | none => exact List.forall_mem_nil _
  | some reads => exact ofForall₂ (.cons reads .nil)

end AllRead

/-- The specifications of the types in a method. -/
def MethodPlan.typeSpecs (p : MethodPlan) : List String :=
  p.typeParams.flatMap TypeParamPlan.bounds ++ p.returnType.toList ++ p.params.map ParamPlan.type ++
    p.exceptions

/-- The specifications of the types in a unit, apart from those in its nested units. -/
def DeclPlan.typeSpecs (p : DeclPlan) : List String :=
  p.typeParams.flatMap TypeParamPlan.bounds ++ p.superClass.toList ++ p.interfaces ++
    p.fields.map FieldPlan.type ++ p.components.map ParamPlan.type ++
    p.methods.flatMap MethodPlan.typeSpecs

namespace UnitPlan

mutual

/-- The specifications of the types in a unit, then those in its nested units. -/
def typeSpecs : UnitPlan → List String
  | ⟨p, nested⟩ => p.typeSpecs ++ typeSpecsAll nested

/-- The specifications of the types in some units. -/
def typeSpecsAll : List UnitPlan → List String
  | [] => []
  | u :: us => u.typeSpecs ++ typeSpecsAll us

end

theorem typeSpecsAll_eq_flatMap (us : List UnitPlan) : typeSpecsAll us = us.flatMap typeSpecs := by
  induction us with
  | nil => rfl
  | cons u us ih => rw [typeSpecsAll, ih, List.flatMap_cons]

theorem typeSpecs_eq (u : UnitPlan) :
    u.typeSpecs = u.toDeclPlan.typeSpecs ++ u.nested.flatMap typeSpecs := by
  cases u
  rw [typeSpecs, typeSpecsAll_eq_flatMap]

/-- The specifications in a unit at some place of the tree. -/
theorem Within.subset_typeSpecs {u v : UnitPlan} {d e : TypeDecl} (within : Within v e u d) :
    v.toDeclPlan.typeSpecs ⊆ u.typeSpecs := by
  induction within with
  | top =>
      rw [typeSpecs_eq]
      exact List.subset_append_left _ _
  | nested place _ ih =>
      intro spec given
      rw [typeSpecs_eq, List.mem_append, List.mem_flatMap]
      exact .inr ⟨_, (List.of_mem_zip place).1, ih given⟩

end UnitPlan

/-! ### What a declaration refers to -/

theorem MethodPlan.Yields.allRead {declared : String} {p : MethodPlan} {m : Method}
    (yields : p.Yields declared m) : AllRead p.typeSpecs (Outline.typesOfMethod m) := by
  have bounds : AllRead (p.typeParams.flatMap TypeParamPlan.bounds)
      (m.typeParams.flatMap TypeParam.bounds) :=
    .flatMap yields.typeParams fun _ _ t => .ofForall₂ t.bounds
  have params : AllRead (p.params.map ParamPlan.type) (m.params.map Param.type) :=
    .map yields.params fun _ _ q => q.type
  exact ((bounds.append (.ofRel yields.returnType)).append params).append
    (.ofForall₂ yields.exceptions)

/-- An accessor refers to nothing but the type of its field. -/
theorem Field.eq_of_mem_typesOfMethod {f : Field} {m : Method} (made : m ∈ f.accessors)
    {t : TypeRef} (refers : t ∈ Outline.typesOfMethod m) : t = f.type := by
  rcases eq_of_mem_accessors made with rfl | rfl
  · simpa [Outline.typesOfMethod, getter] using refers
  · simpa [Outline.typesOfMethod, setter] using refers

namespace DeclPlan

variable {declared : TypeRef} {p : DeclPlan} {d : Outline}

/-- **Every reference** of a declaration is read from a specification in its plan. -/
theorem Yields.allRead (yields : p.Yields declared d) : AllRead p.typeSpecs d.referencedTypes := by
  have bounds : AllRead (p.typeParams.flatMap TypeParamPlan.bounds)
      (d.typeParams.flatMap TypeParam.bounds) :=
    .flatMap yields.typeParams fun _ _ t => .ofForall₂ t.bounds
  have interfaces : AllRead p.interfaces d.interfaces := by
    obtain ⟨ts, reads, kept⟩ := yields.interfaces
    rw [kept, ← TypeRef.distinct_eq_eraseDupsBy]
    exact (AllRead.ofForall₂ reads).mono (TypeRef.distinct_subset ts) (List.Subset.refl _)
  have fields : AllRead (p.fields.map FieldPlan.type) (d.fields.map Field.type) :=
    .map yields.fields fun _ _ f => f.type
  have components : AllRead (p.components.map ParamPlan.type) (d.components.map Param.type) :=
    .map yields.components fun _ _ c => c.type
  have own := (((bounds.append (.ofRel yields.superClass)).append interfaces).append
    fields).append components
  obtain ⟨methods, extra, all, ofMethods, tail, -⟩ := yields.methods
  have planned : AllRead (p.methods.flatMap MethodPlan.typeSpecs)
      (methods.flatMap Outline.typesOfMethod) := .flatMap ofMethods fun _ _ m => m.allRead
  rw [Outline.referencedTypes, all, List.flatMap_append, ← List.append_assoc]
  intro t member
  rcases List.mem_append.mp member with here | added
  · exact own.append planned t here
  · -- An accessor refers to the type of a field, which is read from the plan of the field.
    obtain ⟨m, found, refers⟩ := List.mem_flatMap.mp added
    obtain ⟨f, given, made⟩ := List.mem_flatMap.mp (tail.sublist.subset found)
    rw [f.eq_of_mem_typesOfMethod made refers]
    refine fields.mono (List.Subset.refl _) ?_ _ (List.mem_map_of_mem given)
    intro spec there
    simp only [typeSpecs, List.mem_append, there, true_or, or_true]

end DeclPlan

/-! ### What a kind writes -/

/-- A planned constructor that has passed has no result. -/
theorem MethodPlan.Yields.returnType_eq_none {site : PlanSite} {kind : DeclKind}
    {declared : String} {p : MethodPlan} {m : Method} (yields : p.Yields declared m)
    (passed : ∀ check ∈ p.checks kind declared, site.problem? check = none)
    (isConstructor : m.isConstructor = true) : m.returnType = none := by
  rw [yields.isConstructor] at isConstructor
  have result : p.returnType = none := by
    have rule := passed (.rule (p.returnType.isNone && kind != .ofInterface) _ _) (by
      rw [checks, headingChecks, if_pos isConstructor]
      exact List.mem_append_left _ (List.mem_cons_of_mem _ List.mem_cons_self))
    have holds := PlanSite.problem?_rule_eq_none_iff.mp rule
    rw [Bool.and_eq_true] at holds
    exact Option.isNone_iff_eq_none.mp holds.1
  have related := yields.returnType
  rw [result] at related
  cases given : m.returnType with
  | none => rfl
  | some t =>
      rw [given] at related
      cases related

namespace UnitPlan.Stands

variable {type : TypeRef} {site : PlanSite} {u : UnitPlan} {d : TypeDecl} {t : TypeRef}

/-- Only a class has a super class. -/
theorem kind_of_superClass (stands : u.Stands type site d) (given : d.superClass = some t) :
    d.kind = .ofClass := by
  have outline := stands.outline
  have related := outline.superClass
  rw [given] at related
  cases planned : u.superClass with
  | none =>
      rw [planned] at related
      cases related
  | some spec =>
      obtain ⟨-, ofSuperclass, -⟩ := DeclPlan.subset_groups site type.innerName u.toDeclPlan
      have passed := stands.passed_outline _ (ofSuperclass (List.mem_map_of_mem
        (Option.mem_toList.mpr planned)))
      have rule := CheckGroup.problem?_eq_none_iff.mp passed _ List.mem_cons_self
      rw [outline.kind]
      exact of_decide_eq_true (PlanSite.problem?_rule_eq_none_iff.mp rule)

/-- Only a record has components. -/
theorem kind_of_components (stands : u.Stands type site d) (given : d.components ≠ []) :
    d.kind = .ofRecord := by
  have outline := stands.outline
  obtain ⟨-, -, -, -, ofComponents, -, -⟩ :=
    DeclPlan.subset_groups site type.innerName u.toDeclPlan
  have passed := stands.passed_outline _ (ofComponents List.mem_cons_self)
  have rule := CheckGroup.problem?_eq_none_iff.mp passed _ List.mem_cons_self
  have holds := PlanSite.problem?_rule_eq_none_iff.mp rule
  have planned : u.components.isEmpty = false := by
    rw [List.isEmpty_eq_false_iff]
    intro none
    have all := outline.components
    rw [none, List.forall₂_nil_left_iff] at all
    exact given all
  rw [outline.kind]
  rw [planned, Bool.not_false, Bool.true_and, Bool.not_eq_true', bne_eq_false_iff_eq] at holds
  exact holds

/-- A constructor has no result. -/
theorem returnType_eq_none (stands : u.Stands type site d) {m : Method} (member : m ∈ d.methods)
    (isConstructor : m.isConstructor = true) : m.returnType = none := by
  rcases stands.planned_or_accessor member with ⟨p, yields, passed⟩ | ⟨f, -, made⟩
  · exact yields.returnType_eq_none passed isConstructor
  · rcases f.eq_of_mem_accessors made with rfl | rfl
    · cases isConstructor
    · cases isConstructor

/-- **Every reference** of a declaration that has passed is written in one of its lines. -/
theorem exists_typedLine (stands : u.Stands type site d) (scope : Option Scope)
    (refers : t ∈ d.toOutline.referencedTypes) :
    ∃ l ∈ d.typedLines scope, t ∈ l.types := by
  have inHeader (written : t ∈ d.headerTypes) : ∃ l ∈ d.typedLines scope, t ∈ l.types :=
    ⟨_, List.mem_append_left _ List.mem_cons_self, written⟩
  simp only [Outline.referencedTypes, List.mem_append] at refers
  rcases refers with ((((bound | superClass) | interface) | field) | component) | inMethod
  · refine inHeader ?_
    simp only [Outline.headerTypes, List.mem_append, bound, true_or]
  · refine inHeader ?_
    have isClass := stands.kind_of_superClass (Option.mem_toList.mp superClass)
    simp only [Outline.headerTypes, List.mem_append, if_pos isClass, superClass, true_or, or_true]
  · refine inHeader ?_
    simp only [Outline.headerTypes, List.mem_append, interface, or_true]
  · obtain ⟨f, member, rfl⟩ := List.mem_map.mp field
    refine ⟨_, List.mem_append_left _ (List.mem_cons_of_mem _ (List.mem_map_of_mem member)), ?_⟩
    exact List.mem_singleton_self _
  · refine inHeader ?_
    obtain ⟨c, given, -⟩ := List.mem_map.mp component
    have isRecord := stands.kind_of_components (List.ne_nil_of_mem given)
    simp only [Outline.headerTypes, List.mem_append, if_pos isRecord, component, true_or, or_true]
  · obtain ⟨m, member, inSignature⟩ := List.mem_flatMap.mp inMethod
    refine ⟨_, List.mem_append_right _ (List.mem_map_of_mem member), ?_⟩
    dsimp only
    rw [Method.signatureTypes]
    cases constructor : m.isConstructor with
    | true =>
        rw [Outline.typesOfMethod, stands.returnType_eq_none member constructor] at inSignature
        rwa [if_pos rfl]
    | false => rwa [if_neg Bool.false_ne_true]

end UnitPlan.Stands

/-! ### Files -/

namespace UnitPlan

variable {site : PlanSite} {comments : List String} {p : UnitPlan} {u : CompilationUnit}

/-- Comments and static imports are no imports. -/
theorem importPaths_beforeImports (p : UnitPlan) (comments : List String) (d : TypeDecl) :
    ((p.staticImports.map Text.trimmed).foldl CompilationUnit.addStaticImport
      ((comments ++ p.comments).foldl CompilationUnit.addComment (.ofDecl d))).importPaths = [] := by
  have kept : ∀ (paths : List String) (v : CompilationUnit), v.importPaths = [] →
      (paths.foldl CompilationUnit.addStaticImport v).importPaths = [] := by
    intro paths
    induction paths with
    | nil => exact fun v none => none
    | cons path paths ih => exact fun v none => ih _ none
  refine kept _ _ ?_
  rw [foldl_addComment]
  rfl

/-- **Without explicit imports** every import of a file is asked for by a node of something
that its declaration refers to. -/
theorem exists_asked_of_build (built : p.build comments site = .fine u)
    (referenced : p.importsReferenced = true) (none : p.imports = []) {path : String}
    (found : path ∈ u.importPaths) :
    ∃ t ∈ u.decl.referencedTypes, ∃ n ∈ t.nodes, n.importPath? = some path := by
  obtain ⟨type, d, ts, -, given, rfl⟩ := exists_assemble_of_build built
  rw [none] at given
  cases given
  rw [assemble, if_pos referenced, CompilationUnit.importReferenced,
    CompilationUnit.addImports_eq_walk] at found ⊢
  rw [CompilationUnit.walk_decl]
  rcases CompilationUnit.mem_or_asked_of_walk found with before | ⟨n, member, asked⟩
  · rw [CompilationUnit.addImports_eq_walk, TypeRef.nodesAll, CompilationUnit.walk_nil,
      p.importPaths_beforeImports] at before
    cases before
  · rw [TypeRef.nodesAll_eq_flatMap, List.mem_flatMap] at member
    obtain ⟨t, refers, node⟩ := member
    exact ⟨t, refers, n, node, asked⟩

end UnitPlan

/-- **A bare specification** puts no text behind an unbounded wildcard. -/
def HasBareWildcards (spec : String) : Prop :=
  ∀ t, Reads spec t → ∀ n ∈ t.nodes, n.wildcard = some .unbounded → n.qualifiedName = ""

instance (spec : String) : Decidable (HasBareWildcards spec) :=
  match parsed : TypeRef.parse spec with
  | .ok t =>
    decidable_of_iff (∀ n ∈ t.nodes, n.wildcard = some .unbounded → n.qualifiedName = "")
      ⟨fun bare _ reads => Except.ok.inj (parsed.symm.trans reads) ▸ bare, fun bare => bare t parsed⟩
  | .error _ => isTrue fun _ reads => nomatch parsed.symm.trans reads

/-- **The import `path` is used** in a file: a declaration in it, at any depth, has a line
with a reference to a type that asks for the import; the type is written there with its
short name, which is another one than its qualified name; and the line is shown. -/
def CompilationUnit.Uses (u : CompilationUnit) (path : String) : Prop :=
  ∃ d, (d = u.decl ∨ u.decl.Encloses d) ∧
    ∃ l ∈ d.typedLines (some u.scope), ∃ t ∈ l.types, ∃ n ∈ t.nodes,
      n.importPath? = some path ∧
      TypeRef.displayBase (some u.scope) n.toTypeNode = n.shortBase ∧ n.shortBase ≠ n.fullBase ∧
      Text.Occurs (n.display (some u.scope)) l.text ∧
      ∀ indent, ∃ front level back,
        u.render indent = front ++ CodeLine.written indent ⟨level, l.text⟩ ++ back

/-- The import that a node asks for names the type with its package. -/
theorem TypeNode.qualifiedName_ne_empty {n : TypeNode} {path : String}
    (asked : n.importPath? = some path) : n.qualifiedName ≠ "" := by
  have packaged := package_ne_empty_of_isImportable (exists_importPath?_iff.mp ⟨path, asked⟩)
  rw [qualifiedName_eq_of_package_ne packaged]
  intro empty
  have letters := congrArg String.toList empty
  simp at letters

namespace UnitPlan

variable {site : PlanSite} {comments : List String} {p : UnitPlan} {u : CompilationUnit}

/-- **The imports of a file** that has been built are used. -/
theorem Stands.uses {type : TypeRef} (stands : p.Stands type (site.inside p.type) u.decl)
    (built : p.build comments site = .fine u) (referenced : p.importsReferenced = true)
    (none : p.imports = []) (bare : ∀ spec ∈ p.typeSpecs, HasBareWildcards spec) {path : String}
    (found : path ∈ u.importPaths) : u.Uses path := by
  obtain ⟨t, collected, n, node, asked⟩ := exists_asked_of_build built referenced none found
  obtain ⟨d, held, refers⟩ := TypeDecl.mem_referencedTypes_iff.mp collected
  obtain ⟨v, type', site', within, inner⟩ := stands.exists_within held
  obtain ⟨l, line, member⟩ := inner.exists_typedLine (some u.scope) refers
  obtain ⟨spec, given, reads⟩ := inner.outline.allRead t refers
  have visible : n.wildcard ≠ some .unbounded := fun hidden =>
    TypeNode.qualifiedName_ne_empty asked
      (bare spec (within.subset_typeSpecs given) t reads n node hidden)
  have packaged := TypeNode.package_ne_empty_of_isImportable
    (TypeNode.exists_importPath?_iff.mp ⟨path, asked⟩)
  have sees : u.scope.seesShort n.toTypeNode = true :=
    Scope.seesShort_iff.mpr (.inr (.inr ⟨path, found, asked⟩))
  refine ⟨d, held, l, line, t, member, n, node, asked, TypeRef.displayBase_of_seesShort sees,
    (TypeNode.fullBase_ne_shortBase packaged visible).symm, ?_, fun indent => ?_⟩
  · exact (TypeRef.occurs_display _ node).trans (Outline.occurs_of_mem_typedLines line member)
  · exact u.render_shows_line indent held (TypeDecl.hasLine_of_mem_typedLines line)

end UnitPlan

/-! ### Manifests -/

/-- **The imports of an accepted manifest** are used in the files of its units: take a unit
that imports what it refers to and nothing else, and that has no specification with text
behind an unbounded wildcard. -/
theorem ManifestPlan.uses_of_accept {m : ManifestPlan} {site : PlanSite} {manifest : Manifest}
    (accepted : m.accept site = .ok manifest) :
    List.Forall₂ (fun (p : UnitPlan) (u : CompilationUnit) =>
      p.importsReferenced = true → p.imports = [] →
        (∀ spec ∈ p.typeSpecs, HasBareWildcards spec) → ∀ path ∈ u.importPaths, u.Uses path)
      m.units manifest.units := by
  have stands := List.forall₂_iff_zip.mp (stands_of_accept accepted)
  refine List.forall₂_iff_zip.mpr ⟨stands.1, fun {p u} place referenced none bare path found => ?_⟩
  obtain ⟨t, -, passed⟩ := stands.2 place
  have built := (UnitPlan.file?_eq_some_iff site).mp (file?_of_accept accepted place)
  exact passed.uses built referenced none bare found

namespace Manifest

/-- **Imports are used.**  In a manifest that has been read, take a unit that imports what it
refers to and nothing else, and that has no specification with text behind an unbounded
wildcard.  Every import of its file is that of a type which is written in a header, a field
or a signature of the file, at any depth, and is written there with its short name. -/
theorem parse_imports_used (source file : String) (manifest : Manifest)
    (parsed : Manifest.parse source file = .ok manifest) :
    ∃ plan, Describes source plan ∧
      List.Forall₂ (fun (p : UnitPlan) (u : CompilationUnit) =>
        p.importsReferenced = true → p.imports = [] →
          (∀ spec ∈ p.typeSpecs, HasBareWildcards spec) → ∀ path ∈ u.importPaths, u.Uses path)
        plan.units manifest.units := by
  obtain ⟨m, described, accepted⟩ := parse_eq_ok_iff.mp parsed
  exact ⟨m, described, ManifestPlan.uses_of_accept accepted⟩

/-- What is decided about the manifest in a text holds of the manifest planned in it. -/
theorem forall_describes {source : String} {Q : ManifestPlan → Prop} [DecidablePred Q]
    (decided : ((Toml.parse source).bind fun entries => (Schema.manifest entries).toOption).all
      (fun m => decide (Q m)) = true) : ∀ m, Describes source m → Q m := by
  rintro m ⟨entries, read, shaped⟩
  rw [read, Option.bind_some, shaped] at decided
  exact of_decide_eq_true decided

/-- A class with a class in it, which extends a class from another package. -/
def shelf : String :=
  "[[unit]]\ntype = \"foo.Shelf\"\n[[unit.nested]]\ntype = \"Row\"\n" ++
    "extends = \"java.util.ArrayList<?>\"\n"

theorem parse_imports_used_shelf :
    ∃ manifest, Manifest.parse shelf "jgen.toml" = .ok manifest ∧
      ∃ u ∈ manifest.units, "java.util.ArrayList" ∈ u.importPaths ∧
        u.Uses "java.util.ArrayList" := by
  obtain ⟨manifest, parsed, u, member, imported⟩ :
      ∃ manifest, Manifest.parse shelf "jgen.toml" = .ok manifest ∧
        ∃ u ∈ manifest.units, "java.util.ArrayList" ∈ u.importPaths :=
    exists_eq_ok (by decide +kernel)
  obtain ⟨plan, described, uses⟩ := parse_imports_used shelf "jgen.toml" manifest parsed
  have plain : ∀ m, Describes shelf m → ∀ p ∈ m.units, p.importsReferenced = true ∧
      p.imports = [] ∧ ∀ spec ∈ p.typeSpecs, HasBareWildcards spec :=
    forall_describes (by decide +kernel)
  obtain ⟨p, place, used⟩ := exists_mem_zip uses member
  obtain ⟨referenced, none, bare⟩ := plain plan described p (List.of_mem_zip place).1
  exact ⟨manifest, parsed, u, member, imported, used referenced none bare _ imported⟩

end Manifest

end JavaScaffold
