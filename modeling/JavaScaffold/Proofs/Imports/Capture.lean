import JavaScaffold.Proofs.Imports.Display
import JavaScaffold.TypeRef.Known

/-!
# Capture of short names

A short name in a file means what the file binds it to: a declaration inside the
unit or the class that an import makes visible.  A reference is captured when it is
written with a short name that something else binds.

## Main Definitions

* `TypeRef.IsClassName` — a reference to a class by its name
* `CompilationUnit.PrintsShort` — a reference is written with its short name
* `CompilationUnit.Captures` — the unit binds the head of a reference to something
  else

## Main Statements

* `CompilationUnit.mem_importPaths_of_printsShort` — outside its package a unit writes
  a class short only by virtue of an import
* `CompilationUnit.short_names_not_captured` — references that depend on an import
  are not captured
* `CompilationUnit.short_names_captured` — all others can be

## Design Notes

The language package and the package of the unit are visible without an import, so
their classes are written short without a look at what the unit binds, and the
guard of an import does not look at those classes.  The protection from capture is
therefore a matter of the import set alone: it covers the references that are short
because of an import, and no others.
-/

namespace JavaScaffold

/-- A reference to a class by its name: no arguments, no wildcard, and a package
without array brackets. -/
structure TypeRef.IsClassName (t : TypeRef) : Prop where
  noArgs : t.args = []
  noWildcard : t.wildcard = none
  packaged : t.package ≠ ""
  plain : '[' ∉ t.package.toList

theorem TypeRef.IsClassName.named {name : String} (packaged : (TypeRef.named name).package ≠ "")
    (plain : '[' ∉ (TypeRef.named name).package.toList) : (TypeRef.named name).IsClassName where
  noArgs := rfl
  noWildcard := by
    rw [TypeRef.named, TypeNode.ofName]
    split <;> rfl
  packaged := packaged
  plain := plain

namespace CompilationUnit

variable {u : CompilationUnit} {s t : TypeRef} {path name : String}

/-- `EndsIn path name` holds when `name` is the part of `path` after a dot. -/
def EndsIn (path name : String) : Prop :=
  ∃ front, path = front ++ "." ++ name

/-- The reference `t` is written with its short name in the unit `u`. -/
def PrintsShort (u : CompilationUnit) (t : TypeRef) : Prop :=
  t.display (some u.scope) = t.shortName

/-- **Capture.**  The head of the short name of `t` is also the end of an import that
is not the one of `t`, or it is the name of a declaration inside the unit that is not
the one `t` refers to. -/
def Captures (u : CompilationUnit) (t : TypeRef) : Prop :=
  (∃ path ∈ u.importPaths, EndsIn path t.headName ∧ t.importPath? ≠ some path) ∨
    ∃ e, u.decl.Encloses e ∧ e.declaredName = t.headName ∧ e.type.qualifiedName ≠ t.qualifiedName

theorem simpleName_append (front : String) (undotted : '.' ∉ name.toList) :
    simpleName (front ++ "." ++ name) = name :=
  Text.afterLast_append front undotted

/-- An import that ends in a name without dots binds that name. -/
theorem simpleName_of_endsIn (ends : EndsIn path name) (undotted : '.' ∉ name.toList) :
    simpleName path = name := by
  obtain ⟨front, rfl⟩ := ends
  exact simpleName_append front undotted

/-- A class outside the unit is written short only by virtue of its import, which
binds its head name. -/
theorem mem_importPaths_of_printsShort (isClass : t.IsClassName) (short : u.PrintsShort t)
    (outside : u.IsOutside t) : t.package ++ "." ++ t.headName ∈ u.importPaths := by
  have asked := TypeNode.importPath?_eq_headName outside.1 isClass.plain
  have visible : t.wildcard ≠ some .unbounded := by
    rw [isClass.noWildcard]
    exact nofun
  rw [PrintsShort, TypeRef.display_eq, TypeRef.shortName_eq, isClass.noArgs] at short
  have shortBase : TypeRef.displayBase (some u.scope) t.toTypeNode = t.shortBase :=
    (String.append_left_inj t.brackets).mp short
  rw [TypeRef.displayBase_eq_shortBase_iff isClass.packaged visible, Scope.seesShort_iff] at shortBase
  -- Of the three reasons for a short name only the import is left.
  rcases shortBase with noImport | near | ⟨path, registered, same⟩
  · rw [outside.1] at noImport
    cases noImport
  · exact absurd near outside.2
  · rw [asked] at same
    cases same
    exact registered

namespace ImportsCoherent

/-- No import ends in the name of the unit. -/
theorem not_endsIn_ownName (coherent : u.ImportsCoherent) (registered : path ∈ u.importPaths) :
    ¬ EndsIn path u.ownName := by
  intro ends
  obtain ⟨t, eligible⟩ := coherent.exists_eligible registered
  exact eligible.notOwn (simpleName_of_endsIn ends (Text.not_mem_beforeFirst '.' _))

/-- Where an import of a class is registered, no declaration inside the unit has the
head name of that class. -/
theorem declaredName_ne_headName (coherent : u.ImportsCoherent)
    (own : t.package ++ "." ++ t.headName ∈ u.importPaths) {e : TypeDecl}
    (enclosed : u.decl.Encloses e) : e.declaredName ≠ t.headName := by
  obtain ⟨s, eligible⟩ := coherent.exists_eligible own
  have apart := eligible.notNested e enclosed
  rwa [simpleName_append t.package t.dot_not_mem_headName] at apart

/-- Two classes with one head name cannot both be imported from different
packages. -/
theorem package_eq_of_headName_eq (coherent : u.ImportsCoherent)
    (ownS : s.package ++ "." ++ s.headName ∈ u.importPaths)
    (ownT : t.package ++ "." ++ t.headName ∈ u.importPaths) (same : s.headName = t.headName) :
    s.package = t.package := by
  rw [same] at ownS
  have bindsS := simpleName_append s.package t.dot_not_mem_headName
  have bindsT := simpleName_append t.package t.dot_not_mem_headName
  have samePath := coherent.eq_of_simpleName_eq ownS ownT (bindsS.trans bindsT.symm)
  rwa [String.append_left_inj, String.append_left_inj] at samePath

/-- Nothing captures a class whose import is registered. -/
theorem not_captures (coherent : u.ImportsCoherent)
    (asked : t.importPath? = some (t.package ++ "." ++ t.headName))
    (own : t.package ++ "." ++ t.headName ∈ u.importPaths) : ¬ u.Captures t := by
  rintro (⟨path, registered, ends, different⟩ | ⟨e, enclosed, declares, -⟩)
  · have same := simpleName_of_endsIn ends t.dot_not_mem_headName
    have binds := simpleName_append t.package t.dot_not_mem_headName
    refine different (asked.trans (congrArg some ?_))
    exact coherent.eq_of_simpleName_eq own registered (binds.trans same.symm)
  · exact coherent.declaredName_ne_headName own enclosed declares

end ImportsCoherent

/-- **Foreign short names are not captured.**  After any requests for imports, let a
class be written with its short name although it is neither in the language package
nor in the package of the unit.  Then every import that ends in its head name is its
own, and no declaration inside the unit has that name.  No import ends in the name
of the unit.  And of two classes with one head name in different packages, both
written short, one is in the language package or in the package of the unit. -/
theorem short_names_not_captured (d : TypeDecl) (requests : List ImportRequest) :
    let u := (ofDecl d).requestAll requests
    (∀ t : TypeRef, t.IsClassName → u.PrintsShort t → u.IsOutside t →
        ¬ u.Captures t ∧ ∀ e, d.Encloses e → e.declaredName ≠ t.headName) ∧
      (∀ path ∈ u.importPaths, ¬ EndsIn path u.ownName) ∧
      (∀ s t : TypeRef, s.IsClassName → t.IsClassName → s.package ≠ t.package →
        s.headName = t.headName → u.PrintsShort s → u.PrintsShort t →
          ¬ (u.IsOutside s ∧ u.IsOutside t)) := by
  intro u
  have coherent : u.ImportsCoherent := importsCoherent_requestAll d requests
  have sameDecl : u.decl = d := requestAll_decl (ofDecl d) requests
  refine ⟨fun t isClass short outside => ?_, fun path => coherent.not_endsIn_ownName, ?_⟩
  · have asked := TypeNode.importPath?_eq_headName outside.1 isClass.plain
    have own := mem_importPaths_of_printsShort isClass short outside
    refine ⟨coherent.not_captures asked own, fun e enclosed => ?_⟩
    exact coherent.declaredName_ne_headName own (sameDecl ▸ enclosed)
  · rintro s t isClassS isClassT different sameHead shortS shortT ⟨outsideS, outsideT⟩
    have ownS := mem_importPaths_of_printsShort isClassS shortS outsideS
    have ownT := mem_importPaths_of_printsShort isClassT shortT outsideT
    exact different (coherent.package_eq_of_headName_eq ownS ownT sameHead)

/-- The unit of the class `com.foo.Impl` with an import of the class `com.a.String`. -/
def implUnit : CompilationUnit :=
  (ofDecl { type := .named "com.foo.Impl" }).requestAll [.reference (.named "com.a.String")]

/-- Of the two classes `String` that can be written short in one unit, the imported
one is not captured, and the other one is in the language package. -/
theorem short_names_not_captured_string :
    let t := TypeRef.named "com.a.String"
    t.IsClassName ∧ implUnit.PrintsShort t ∧ implUnit.IsOutside t ∧ ¬ implUnit.Captures t ∧
      "com.a.String" ∈ implUnit.importPaths ∧ ¬ EndsIn "com.a.String" implUnit.ownName ∧
      TypeRef.string.IsClassName ∧ implUnit.PrintsShort TypeRef.string ∧
      t.package ≠ TypeRef.string.package ∧ t.headName = TypeRef.string.headName ∧
      ¬ (implUnit.IsOutside t ∧ implUnit.IsOutside TypeRef.string) := by
  intro t
  have isClass : t.IsClassName := .named (by decide +kernel) (by decide +kernel)
  have isClassString : TypeRef.string.IsClassName := .named (by decide +kernel) (by decide +kernel)
  have short : implUnit.PrintsShort (.named "com.a.String") := by
    rw [PrintsShort]
    decide +kernel
  have shortString : implUnit.PrintsShort TypeRef.string := by
    rw [PrintsShort]
    decide +kernel
  have outside : implUnit.IsOutside (.named "com.a.String") := by
    rw [IsOutside]
    decide +kernel
  have registered : "com.a.String" ∈ implUnit.importPaths := by decide +kernel
  have different : (TypeRef.named "com.a.String").package ≠ TypeRef.string.package := by
    decide +kernel
  have sameHead : (TypeRef.named "com.a.String").headName = TypeRef.string.headName := by
    decide +kernel
  obtain ⟨uncaptured, notOwn, onlyOne⟩ := short_names_not_captured
    { type := .named "com.foo.Impl" } [.reference (.named "com.a.String")]
  exact ⟨isClass, short, outside, (uncaptured t isClass short outside).1, registered,
    notOwn _ registered, isClassString, shortString, different, sameHead,
    onlyOne t TypeRef.string isClass isClassString different sameHead short shortString⟩

/-! ### What is not protected -/

/-- The unit of the class `com.foo.Bar` with imports of two classes whose simple
names are free, and of two classes `C`, one of them with a bracket in its package. -/
def importingUnit : CompilationUnit :=
  (ofDecl { type := .named "com.foo.Bar" }).requestAll
    [.references [.date, .named "com.other.String", .named "a[b.C", .named "com.x.C"]]

/-- The unit of the class `com.foo.Bar` with the nested classes `Date` and `String`. -/
def nestingUnit : CompilationUnit :=
  ofDecl
    { type := .named "com.foo.Bar"
      nested :=
        [{ type := (TypeRef.named "com.foo.Bar").nested "Date" },
          { type := (TypeRef.named "com.foo.Bar").nested "String" }] }

/-- **Short names can be captured.**  A class in the package of the unit, a class of
the language package, and a class with a bracket in its package are written short
beside an import that ends in the same name, and the first two also inside a unit
that declares their name.  So two classes of one simple name, from two packages, are
both written with that name in one unit. -/
theorem short_names_captured :
    let sibling := TypeRef.named "com.foo.Date"
    let bracketed := TypeRef.named "a[b.C"
    sibling.IsClassName ∧ TypeRef.string.IsClassName ∧
      (importingUnit.PrintsShort sibling ∧ importingUnit.Captures sibling) ∧
      (importingUnit.PrintsShort .string ∧ importingUnit.Captures .string) ∧
      (nestingUnit.PrintsShort sibling ∧ nestingUnit.Captures sibling) ∧
      (nestingUnit.PrintsShort .string ∧ nestingUnit.Captures .string) ∧
      (bracketed.args = [] ∧ bracketed.wildcard = none ∧ bracketed.package = "a[b" ∧
        importingUnit.PrintsShort bracketed ∧ importingUnit.Captures bracketed) ∧
      (sibling.display (some importingUnit.scope) = "Date" ∧
        TypeRef.date.display (some importingUnit.scope) = "Date") := by
  refine ⟨.named (by decide +kernel) (by decide +kernel),
    .named (by decide +kernel) (by decide +kernel), ⟨?_, ?_⟩, ⟨?_, ?_⟩, ⟨?_, ?_⟩, ⟨?_, ?_⟩,
    ⟨rfl, by decide +kernel, by decide +kernel, ?_, ?_⟩, ?_, ?_⟩
  -- the sibling, and then the language class, beside an import
  · rw [PrintsShort]
    decide +kernel
  · refine .inl ⟨"java.util.Date", ?_, ⟨"java.util", ?_⟩, ?_⟩
    all_goals decide +kernel
  · rw [PrintsShort]
    decide +kernel
  · refine .inl ⟨"com.other.String", ?_, ⟨"com.other", ?_⟩, ?_⟩
    all_goals decide +kernel
  -- the same two inside a unit that declares their names
  · rw [PrintsShort]
    decide +kernel
  · refine .inr ⟨_, .nested List.mem_cons_self, ?_, ?_⟩
    all_goals decide +kernel
  · rw [PrintsShort]
    decide +kernel
  · refine .inr ⟨_, .nested (List.mem_cons_of_mem _ List.mem_cons_self), ?_, ?_⟩
    all_goals decide +kernel
  -- the class whose import is cut inside its package, and the two printed names
  · rw [PrintsShort]
    decide +kernel
  · refine .inl ⟨"com.x.C", ?_, ⟨"com.x", ?_⟩, ?_⟩
    all_goals decide +kernel
  · decide +kernel
  · decide +kernel

end CompilationUnit

end JavaScaffold
