import JavaScaffold.Proofs.Imports.Capture
import JavaScaffold.Proofs.TypeRef.Reading

/-!
# Classes inside classes

A reference to a nested class goes through the classes around it.  It has the package
and the import of the outermost one, so a unit that imports the outermost class can
write the nested one with a short name as well, however deep it is.

## Main Definitions

* `TypeRef.innermost` — the reference to a class at the end of a chain of nested classes
* `TypeRef.IsBare`, `TypeRef.IsPlain` — a reference that is nothing but the name of a class

## Main Statements

* `TypeRef.importPath?_nested` — a nested class asks for the import of the class around it
* `Scope.seesShort_congr`, `CompilationUnit.addImport_congr` — units look at the package
  and the import of a reference and at nothing else
* `TypeRef.innermost_follows_outermost` — nested classes in a unit
* `TypeRef.innermost_goes_astray` — the exception

## Design Notes

The import of a nested class is put together from the package and the head of the short
name, the import of any other class is its qualified name up to the first bracket.  The
two ways agree as long as the package has no bracket.
-/

namespace JavaScaffold

namespace TypeRef

variable {t outer : TypeRef} {scope : Scope}

/-! ### References that are mere names -/

/-- A reference without arguments, wildcard and brackets behind its name. -/
structure IsBare (t : TypeRef) : Prop where
  noArgs : t.args = []
  noWildcard : t.wildcard = none
  noBrackets : t.brackets = ""

/-- **The mere name of a class**: a dotted name of segments that are not empty, which is
neither an array nor a primitive type. -/
structure IsPlain (t : TypeRef) : Prop extends IsBare t where
  segments : ∀ segment ∈ Text.splitAll '.' t.qualifiedName.toList, segment ≠ []
  noArray : t.isArray = false
  noPrimitive : t.primitive? = none

namespace IsBare

theorem visible (bare : t.IsBare) : t.wildcard ≠ some .unbounded := by
  rw [bare.noWildcard]
  exact nofun

theorem shortBase_eq (bare : t.IsBare) : t.shortBase = t.name := by
  rw [TypeNode.shortBase, TypeNode.behindWildcard, bare.noWildcard]

theorem shortName_eq (bare : t.IsBare) : t.shortName = t.shortBase := by
  rw [TypeRef.shortName_eq, bare.noArgs, bare.noBrackets]
  exact String.append_empty

theorem fullName_eq (bare : t.IsBare) : t.fullName = t.fullBase := by
  rw [TypeRef.fullName_eq, bare.noArgs, bare.noBrackets]
  exact String.append_empty

theorem display_eq (bare : t.IsBare) :
    t.display (some scope) = displayBase (some scope) t.toTypeNode := by
  rw [TypeRef.display_eq, bare.noArgs, bare.noBrackets]
  exact String.append_empty

/-- The text of a mere name tells whether its class is seen by the short name. -/
theorem display_eq_shortName_iff (bare : t.IsBare) :
    t.display (some scope) = t.shortName ↔ scope.seesShort t.toTypeNode = true := by
  rw [bare.display_eq, bare.shortName_eq]
  by_cases packaged : t.package = ""
  · -- Without a package there is no other name, and no import to ask for.
    have noImport : t.isImportable = false := by
      rw [TypeNode.isImportable, packaged]
      rfl
    have sees : scope.seesShort t.toTypeNode = true := Scope.seesShort_iff.mpr (.inl noImport)
    exact iff_of_true (displayBase_of_seesShort sees) sees
  · exact displayBase_eq_shortBase_iff packaged bare.visible

theorem display_eq_fullName (bare : t.IsBare) (sees : ¬ scope.seesShort t.toTypeNode = true) :
    t.display (some scope) = t.fullName := by
  rw [bare.display_eq, bare.fullName_eq, displayBase_of_not_seesShort sees]

end IsBare

/-! ### One class inside another -/

theorem isBare_nested (outer : TypeRef) (name : String) : (outer.nested name).IsBare :=
  ⟨rfl, rfl, rfl⟩

theorem qualifiedName_nested (outer : TypeRef) (name : String) :
    (outer.nested name).qualifiedName = outer.qualifiedName ++ ("." ++ name) := by
  rw [TypeNode.qualifiedName, TypeNode.qualifiedName, nested]
  cases outer.qualifier with
  | none => exact String.append_assoc
  | some front => simp only [String.append_assoc]

/-- The short name of a nested class starts with that of the class around it. -/
theorem headName_nested (outer : TypeRef) (name : String) :
    (outer.nested name).headName = outer.headName := by
  have same : Text.beforeFirst '.' (outer.name ++ "." ++ name) =
      Text.beforeFirst '.' outer.name := by
    apply String.toList_injective
    rw [Text.toList_beforeFirst, Text.toList_beforeFirst, String.toList_append,
      String.toList_append, List.append_assoc, List.takeWhile_append]
    split
    · next whole =>
        rw [(List.takeWhile_prefix _).eq_of_length whole]
        exact List.append_nil _
    · rfl
  rw [TypeNode.headName, TypeNode.headName, nested, same]

/-- **A nested class** asks for the import of the class around it. -/
theorem importPath?_nested (plain : '[' ∉ outer.package.toList) (name : String) :
    (outer.nested name).importPath? = outer.importPath? := by
  cases importable : outer.isImportable with
  | true =>
      have sameImportable : (outer.nested name).isImportable = true := importable
      rw [TypeNode.importPath?_eq_headName sameImportable plain,
        TypeNode.importPath?_eq_headName importable plain, headName_nested]
      rfl
  | false =>
      have sameImportable : (outer.nested name).isImportable = false := importable
      rw [TypeNode.importPath?, TypeNode.importPath?, sameImportable, importable]
      rfl

/-! ### A chain of classes -/

/-- **The end of a chain of nested classes**: each of the classes `names` is declared
inside the one before it, and the first one inside `outer`. -/
def innermost (outer : TypeRef) (names : List String) : TypeRef :=
  names.foldl nested outer

/-- Names as they stand behind that of the class around them. -/
def dotted (names : List String) : String :=
  String.join (names.map fun name => "." ++ name)

theorem dotted_cons (name : String) (names : List String) :
    dotted (name :: names) = "." ++ name ++ dotted names := by
  rw [dotted, List.map_cons, String.join_cons]
  rfl

theorem isBare_innermost (bare : outer.IsBare) (names : List String) :
    (outer.innermost names).IsBare := by
  induction names generalizing outer with
  | nil => exact bare
  | cons name names ih => exact ih (isBare_nested outer name)

theorem package_innermost (outer : TypeRef) (names : List String) :
    (outer.innermost names).package = outer.package := by
  induction names generalizing outer with
  | nil => rfl
  | cons name names ih => exact ih (outer.nested name)

theorem name_innermost (outer : TypeRef) (names : List String) :
    (outer.innermost names).name = outer.name ++ dotted names := by
  induction names generalizing outer with
  | nil => exact String.append_empty.symm
  | cons name names ih =>
      have step : (outer.nested name).name = outer.name ++ ("." ++ name) := String.append_assoc
      rw [innermost, List.foldl_cons, ← innermost, ih, step, dotted_cons, String.append_assoc]

theorem qualifiedName_innermost (outer : TypeRef) (names : List String) :
    (outer.innermost names).qualifiedName = outer.qualifiedName ++ dotted names := by
  induction names generalizing outer with
  | nil => exact String.append_empty.symm
  | cons name names ih =>
      rw [innermost, List.foldl_cons, ← innermost, ih, qualifiedName_nested, dotted_cons,
        String.append_assoc]

theorem importPath?_innermost (plain : '[' ∉ outer.package.toList) (names : List String) :
    (outer.innermost names).importPath? = outer.importPath? := by
  induction names generalizing outer with
  | nil => rfl
  | cons name names ih =>
      have samePackage : '[' ∉ (outer.nested name).package.toList := plain
      rw [innermost, List.foldl_cons, ← innermost, ih samePackage, importPath?_nested plain]

end TypeRef

/-! ### What a unit looks at -/

/-- Whether a class is seen by its short name depends on its package and its import. -/
theorem Scope.seesShort_congr {scope : Scope} {s t : TypeNode} (samePackage : s.package = t.package)
    (samePath : s.importPath? = t.importPath?) : scope.seesShort s = scope.seesShort t := by
  have sameImportable : s.isImportable = t.isImportable := by
    rw [TypeNode.isImportable, TypeNode.isImportable, samePackage]
  rw [Bool.eq_iff_iff, seesShort_iff, seesShort_iff, samePackage, samePath, sameImportable]

/-- The place of an import depends on its path. -/
theorem map_path_insertImport {i j : Import} (same : i.path = j.path) (imports : List Import) :
    (insertImport i imports).map Import.path = (insertImport j imports).map Import.path := by
  induction imports with
  | nil => rw [insertImport, insertImport, List.map_singleton, List.map_singleton, same]
  | cons k ks ih =>
      rw [insertImport, insertImport, same]
      split
      · simp only [List.map_cons, same]
      · simp only [List.map_cons, ih]

/-- **Two references without arguments** add the same to a unit when they are in one package
and ask for the same import. -/
theorem CompilationUnit.addImport_congr (u : CompilationUnit) {s t : TypeRef} (noArgs : s.args = [])
    (noArgs' : t.args = []) (samePackage : s.package = t.package)
    (samePath : s.importPath? = t.importPath?) :
    (u.addImport s).1.importPaths = (u.addImport t).1.importPaths ∧
      (u.addImport s).2 = (u.addImport t).2 := by
  have single : ∀ r : TypeRef, r.args = [] → u.addImport r = importStep (u, false) r := by
    intro r none
    rw [addImport, TypeRef.nodes_eq, none]
    rfl
  rw [single s noArgs, single t noArgs', importStep, importStep, importNode?, importNode?, samePath,
    samePackage]
  cases t.importPath? with
  | none => exact ⟨rfl, rfl⟩
  | some path =>
      cases refused : u.refuses t.package path with
      | true => simp [refused]
      | false =>
          simp only [refused, Bool.false_eq_true, if_false, and_true]
          -- Only the type that is kept beside the path differs.
          exact map_path_insertImport (by rfl) u.imports

namespace TypeRef

/-- **Nested classes follow the outermost one.**  The reference to a class at the end of
a chain has the package of the outermost class, and names of its own behind that class.
Unless there is a bracket in the package, it asks for the import of the outermost class;
every unit writes it with the short name of that class and the names behind it where it
writes that class short, and with its full name elsewhere; and a unit that is asked for
its import answers and changes as if it were asked for that of the outermost class. -/
theorem innermost_follows_outermost (outer : TypeRef) (plain : outer.IsPlain)
    (names : List String) :
    let t := outer.innermost names
    t.package = outer.package ∧
      t.qualifiedName = outer.qualifiedName ++ dotted names ∧
      (t.package ≠ "" → t.qualifiedName = t.package ++ "." ++ t.name) ∧
      ('[' ∉ outer.package.toList →
        t.importPath? = outer.importPath? ∧
        ∀ u : CompilationUnit,
          (t.display (some u.scope) = outer.shortName ++ dotted names ↔ u.PrintsShort outer) ∧
          (¬ u.PrintsShort outer → t.display (some u.scope) = t.fullName) ∧
          (u.addImport t).1.importPaths = (u.addImport outer).1.importPaths ∧
          (u.addImport t).2 = (u.addImport outer).2) := by
  intro t
  have samePackage : t.package = outer.package := package_innermost outer names
  have bare : t.IsBare := isBare_innermost plain.toIsBare names
  have shortName : t.shortName = outer.shortName ++ dotted names := by
    rw [bare.shortName_eq, bare.shortBase_eq, plain.shortName_eq, plain.shortBase_eq]
    exact name_innermost outer names
  refine ⟨samePackage, qualifiedName_innermost outer names,
    TypeNode.qualifiedName_eq_of_package_ne, fun unbracketed => ?_⟩
  have samePath : t.importPath? = outer.importPath? := importPath?_innermost unbracketed names
  refine ⟨samePath, fun u => ⟨?_, fun qualified => ?_, ?_⟩⟩
  · rw [CompilationUnit.PrintsShort, ← shortName, bare.display_eq_shortName_iff,
      plain.display_eq_shortName_iff, Scope.seesShort_congr samePackage samePath]
  · rw [CompilationUnit.PrintsShort, plain.display_eq_shortName_iff,
      ← Scope.seesShort_congr samePackage samePath] at qualified
    exact bare.display_eq_fullName qualified
  · exact u.addImport_congr bare.noArgs plain.noArgs samePackage samePath

instance decidableIsPlain (t : TypeRef) : Decidable t.IsPlain :=
  decidable_of_iff ((t.args.isEmpty = true ∧ t.wildcard = none ∧ t.brackets = "") ∧
      (∀ segment ∈ Text.splitAll '.' t.qualifiedName.toList, segment ≠ []) ∧
      t.isArray = false ∧ t.primitive? = none) <| by
    rw [List.isEmpty_iff]
    constructor
    · rintro ⟨⟨noArgs, noWildcard, noBrackets⟩, segments, noArray, noPrimitive⟩
      exact ⟨⟨noArgs, noWildcard, noBrackets⟩, segments, noArray, noPrimitive⟩
    · intro plain
      exact ⟨⟨plain.noArgs, plain.noWildcard, plain.noBrackets⟩, plain.segments, plain.noArray,
        plain.noPrimitive⟩

/-- The unit of the class `com.foo.Bar` with the import of one reference. -/
def unitWith (t : TypeRef) : CompilationUnit :=
  ((CompilationUnit.ofDecl { type := .named "com.foo.Bar" }).addImport t).1

theorem innermost_follows_outermost_map :
    ∃ outer, parse "java.util.Map" = .ok outer ∧ outer.IsPlain ∧ '[' ∉ outer.package.toList ∧
      (outer.innermost ["Entry", "Key"]).qualifiedName = "java.util.Map.Entry.Key" ∧
      (outer.innermost ["Entry", "Key"]).importPath? = some "java.util.Map" ∧
      (outer.innermost ["Entry", "Key"]).display (some (unitWith outer).scope) = "Map.Entry.Key" ∧
      (outer.innermost ["Entry", "Key"]).display (some (unitWith date).scope) =
        "java.util.Map.Entry.Key" ∧
      ((unitWith date).addImport (outer.innermost ["Entry", "Key"])).1.importPaths =
        ["java.util.Date", "java.util.Map"] := by
  obtain ⟨outer, done, plain, unbracketed, qualified, asked, name, short, full, added⟩ :
      ∃ outer, parse "java.util.Map" = .ok outer ∧ outer.IsPlain ∧ '[' ∉ outer.package.toList ∧
        outer.qualifiedName = "java.util.Map" ∧ outer.importPath? = some "java.util.Map" ∧
        outer.shortName = "Map" ∧
        outer.display (some (unitWith outer).scope) = "Map" ∧
        outer.display (some (unitWith date).scope) = "java.util.Map" ∧
        ((unitWith date).addImport outer).1.importPaths = ["java.util.Date", "java.util.Map"] :=
    exists_eq_ok (by decide +kernel)
  obtain ⟨-, qualifiedName, -, following⟩ :=
    innermost_follows_outermost outer plain ["Entry", "Key"]
  obtain ⟨samePath, units⟩ := following unbracketed
  obtain ⟨inShort, -⟩ := units (unitWith outer)
  obtain ⟨-, inFull, samePaths, -⟩ := units (unitWith date)
  have notShort : ¬ (unitWith date).PrintsShort outer := by
    rw [CompilationUnit.PrintsShort, full, name]
    decide
  have tail : dotted ["Entry", "Key"] = ".Entry.Key" := by decide
  have inner : (outer.innermost ["Entry", "Key"]).fullName =
      (outer.innermost ["Entry", "Key"]).qualifiedName := by
    have bare := isBare_innermost plain.toIsBare ["Entry", "Key"]
    rw [bare.fullName_eq, TypeNode.fullBase, TypeNode.behindWildcard, bare.noWildcard]
  rw [qualified, tail] at qualifiedName
  rw [name, tail] at inShort
  refine ⟨outer, done, plain, unbracketed, qualifiedName, samePath.trans asked, ?_, ?_,
    samePaths.trans added⟩
  · exact inShort.mpr (short.trans name.symm)
  · exact (inFull notShort).trans (inner.trans qualifiedName)

/-- **A bracket in the package** leads a nested class astray: it asks for another import
than the class around it, and is written with its full name in a unit that imports the
outer class and writes it short. -/
theorem innermost_goes_astray :
    ∃ outer, parse "a[b.C" = .ok outer ∧ outer.IsPlain ∧
      outer.importPath? = some "a" ∧ (outer.innermost ["D"]).importPath? = some "a[b.C" ∧
      outer.display (some (unitWith outer).scope) = "C" ∧
      (outer.innermost ["D"]).display (some (unitWith outer).scope) = "a[b.C.D" ∧
      ((unitWith outer).addImport outer).2 = false ∧
      ((unitWith outer).addImport (outer.innermost ["D"])).2 = true :=
  exists_eq_ok (by decide +kernel)

end TypeRef

end JavaScaffold
