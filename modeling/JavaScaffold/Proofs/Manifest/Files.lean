import JavaScaffold.Proofs.Manifest.Passed
import JavaScaffold.Proofs.Path
import JavaScaffold.Proofs.TypeRef.Names

/-!
# Where the files of a manifest go

The file of a unit is called like the class that the unit declares, and it goes to the
directory of the package.  Both are made of parts of the name of the unit, and these are
formed like identifiers, so a file cannot get out of the directory for the files.  Empty
parts of a name are left out of the path, and so are angle brackets behind it: units that
are spelled differently can have the same file.

## Main Definitions

* `CompilationUnit.packageNames`, `CompilationUnit.fileName` — the names on the path of a
  file
* `CompilationUnit.IsPlaced` — units whose package and name are formed like identifiers
* `UnitPlan.IsSpelledOut` — units whose type is spelled without parts that get lost

## Main Statements

* `ManifestPlan.below_of_accept`, `ManifestPlan.names_ne_of_accept` — the files of an
  accepted plan
* `Manifest.preview_below` — every file lies below the directory for the files
* `Manifest.parse_paths_differ` — units that are spelled out have files of their own
* `Manifest.parse_paths_collide` — other units can have the same file
-/

namespace JavaScaffold

/-! ### Names -/

/-- **A part of a name** that is not empty is a plain name on a path. -/
theorem Identifier.isPlainName_ofList {piece : List Char} (given : piece ≠ [])
    (flawless : flaw? piece = none) : Path.IsPlainName (String.ofList piece) := by
  have parts := isPart_of_flaw?_eq_none flawless
  have differs : ∀ text : String, (∃ c ∈ text.toList, isPart c = false) →
      String.ofList piece ≠ text := by
    rintro text ⟨c, member, other⟩ rfl
    rw [String.toList_ofList] at member
    exact Bool.eq_false_iff.mp other (parts c member)
  refine ⟨fun empty => given ?_, differs "." ⟨'.', by simp, by decide⟩,
    differs ".." ⟨'.', by simp, by decide⟩, ?_⟩
  · simpa using empty
  · rw [String.toList_ofList]
    intro member
    exact absurd (parts '/' member) (by decide)

/-- A file name with the extension of source files is a plain name. -/
theorem Identifier.isPlainName_append {name : String} (flawless : flaw? name.toList = none) :
    Path.IsPlainName (name ++ ".java") := by
  have differs : ∀ text : String, text.length < 5 → name ++ ".java" ≠ text := by
    rintro text short rfl
    have five : ".java".length = 5 := rfl
    rw [String.length_append] at short
    omega
  refine ⟨differs "" (by decide), differs "." (by decide), differs ".." (by decide), ?_⟩
  rw [String.toList_append, List.mem_append, not_or]
  refine ⟨fun member => ?_, by decide⟩
  exact absurd (isPart_of_flaw?_eq_none flawless '/' member) (by decide)

/-! ### Files -/

namespace CompilationUnit

/-- The names of the directories for the package of a unit: the parts of the package that
are not empty. -/
def packageNames (u : CompilationUnit) : List String :=
  ((Text.splitAll '.' u.package.toList).filter (!·.isEmpty)).map String.ofList

/-- The name of the file of a unit. -/
def fileName (u : CompilationUnit) : String :=
  u.decl.type.name ++ ".java"

/-- **A unit that is placed**: its package and its name are formed like identifiers, part
by part. -/
structure IsPlaced (u : CompilationUnit) : Prop where
  package : ∀ piece ∈ Text.splitAll '.' u.package.toList, Identifier.flaw? piece = none
  name : Identifier.flaw? u.decl.type.name.toList = none

variable {u : CompilationUnit}

theorem IsPlaced.isPlainName_package (placed : u.IsPlaced) :
    ∀ n ∈ u.packageNames, Path.IsPlainName n := by
  intro n member
  obtain ⟨piece, found, rfl⟩ := List.mem_map.mp member
  obtain ⟨listed, given⟩ := List.mem_filter.mp found
  exact Identifier.isPlainName_ofList (by simpa using given) (placed.package piece listed)

theorem IsPlaced.isPlainName_file (placed : u.IsPlaced) : Path.IsPlainName u.fileName :=
  Identifier.isPlainName_append placed.name

/-- The names on the path of a file, below the directory for the files. -/
def fileNames (u : CompilationUnit) : List String :=
  u.packageNames ++ [u.fileName]

theorem IsPlaced.isPlainName (placed : u.IsPlaced) : ∀ n ∈ u.fileNames, Path.IsPlainName n := by
  rw [fileNames, List.forall_mem_append, List.forall_mem_singleton]
  exact ⟨placed.isPlainName_package, placed.isPlainName_file⟩

end CompilationUnit

/-- **The path of a file** leads down from the directory for the files, by the package and
the name of the file. -/
theorem UnitSource.path_eq_below {s : UnitSource} (placed : s.unit.IsPlaced) (base : String) :
    s.path base = Path.below base s.unit.fileNames := by
  have plain := placed.isPlainName_package
  have package : Path.ofPackage s.unit.package = Path.below "" s.unit.packageNames := by
    have joined : s.unit.packageNames.foldl Path.join (Path.below "" []) =
        Path.below "" ([] ++ s.unit.packageNames) :=
      Path.foldl_join_below (List.forall_mem_nil _) plain
    rwa [Path.below_nil, List.nil_append] at joined
  rw [path, package, Path.join_below_empty base plain]
  exact Path.join_below plain placed.isPlainName_file

/-! ### Units -/

namespace UnitPlan

variable {u : UnitPlan} {t : TypeRef}

/-- **A unit that is spelled out**: nothing stands in angle brackets, and no part of the
package is empty. -/
structure IsSpelledOut (u : UnitPlan) : Prop where
  bare : '<' ∉ u.type.toList
  given : ∀ piece ∈ (Text.splitAll '.' u.key.toList).dropLast, piece ≠ []

example : UnitPlan.IsSpelledOut { type := " com.foo.A" } :=
  ⟨by decide, by decide⟩

/-- The name of a unit stands in front of the first angle bracket. -/
theorem IsNamed.exists_written (named : u.IsNamed t) :
    ∃ written, t.qualifiedName.toList = Text.trim written ∧
      ('<' ∉ u.type.toList → written = u.type.toList) := by
  have parsed := (TypeRef.readNamed_eq_ok_iff.mp named.reads).2.1
  rcases TypeRef.read_cases parsed with ⟨w, bound, b, -, -, rfl⟩ | ⟨-, -, rfl⟩ |
    ⟨-, name, arguments, trailing, segments, args, cut, -, -, rfl⟩
  · exact absurd named.plain (by simp [isClassName])
  · exact ⟨_, TypeRef.toList_qualifiedName_ofName _, fun _ => rfl⟩
  · refine ⟨name, TypeRef.toList_qualifiedName_ofName name, fun bare => ?_⟩
    rw [Bracketing.of_of_not_mem bare] at cut
    cases cut

/-- **The package of a unit** is formed like identifiers, part by part. -/
theorem IsNamed.flawless_package (named : u.IsNamed t) :
    ∀ piece ∈ Text.splitAll '.' t.package.toList, Identifier.flaw? piece = none := by
  obtain ⟨written, spelled, -⟩ := named.exists_written
  have visible : t.wildcard ≠ some .unbounded := by
    intro hidden
    exact absurd named.plain (by simp [isClassName, hidden])
  have node := (TypeRef.flaw?_eq_none_iff.mp (TypeRef.readNamed_eq_ok_iff.mp named.reads).2.2).1
  obtain ⟨segments, tail, some, shape, flawless, run⟩ :=
    (TypeRef.nodeFlaw_eq_none_iff_isName written visible spelled).mp node
  rw [← spelled] at shape
  cases qualified : t.qualifier with
  | none =>
      rw [TypeNode.package, qualified]
      simp [Text.splitAll, Identifier.flaw?]
  | some front =>
      rw [TypeNode.package, qualified, Option.getD_some]
      rw [TypeNode.toList_qualifiedName qualified] at shape
      have free : ∀ s ∈ segments, '.' ∉ s := fun s found =>
        Identifier.dot_not_mem_of_flaw?_eq_none (flawless s found)
      have undotted : '.' ∉ tail := by
        intro member
        rcases run.isBlank_or member with blank | bracket
        · exact absurd blank (by decide)
        · exact absurd bracket (by decide)
      intro piece found
      exact flawless piece (Text.splitAll_subset some free undotted shape found)

/-- **A unit that is spelled out** can be put together again from its package and its
name. -/
theorem IsNamed.splitAll_key (named : u.IsNamed t) (spelledOut : u.IsSpelledOut) :
    Text.splitAll '.' u.key.toList =
      (Text.splitAll '.' t.package.toList).filter (!·.isEmpty) ++ [t.name.toList] := by
  obtain ⟨written, spelled, whole⟩ := named.exists_written
  have undotted := Identifier.dot_not_mem_of_flaw?_eq_none named.usable.flawless
  have given := spelledOut.given
  have text : u.key.toList = t.qualifiedName.toList := by
    rw [spelled, whole spelledOut.bare, key, Text.toList_trimmed]
  rw [text] at given ⊢
  cases qualified : t.qualifier with
  | none =>
      have short : t.qualifiedName = t.name := by rw [TypeNode.qualifiedName, qualified]
      rw [short, Text.splitAll_of_not_mem undotted, TypeNode.package, qualified]
      rfl
  | some front =>
      rw [TypeNode.toList_qualifiedName qualified, Text.splitAll_append,
        Text.splitAll_of_not_mem undotted, List.dropLast_concat] at given
      rw [TypeNode.toList_qualifiedName qualified, Text.splitAll_append,
        Text.splitAll_of_not_mem undotted, TypeNode.package, qualified, Option.getD_some,
        List.filter_eq_self.mpr fun piece found => by simpa using given piece found]

variable {file : CompilationUnit}

/-- The file of a unit is placed. -/
theorem IsNamed.isPlaced (named : u.IsNamed file.decl.type) : file.IsPlaced :=
  ⟨named.flawless_package, named.usable.flawless⟩

/-- **Units that are spelled out** and have the same file have the same key. -/
theorem IsNamed.key_eq {v : UnitPlan} {file' : CompilationUnit}
    (named : u.IsNamed file.decl.type) (named' : v.IsNamed file'.decl.type)
    (spelledOut : u.IsSpelledOut) (spelledOut' : v.IsSpelledOut)
    (same : file.fileNames = file'.fileNames) :
    u.key = v.key := by
  obtain ⟨samePackage, sameFile⟩ := List.append_inj' same rfl
  have sameName : file.decl.type.name = file'.decl.type.name :=
    (String.append_left_inj _).mp (List.singleton_inj.mp sameFile)
  have pieces : Text.splitAll '.' u.key.toList = Text.splitAll '.' v.key.toList := by
    have injective := List.map_injective_iff.mpr fun _ _ => String.ofList_inj.mp
    rw [named.splitAll_key spelledOut, named'.splitAll_key spelledOut', sameName]
    exact congrArg (· ++ _) (injective samePackage)
  apply String.toList_injective
  rw [← Text.intercalate_splitAll '.' u.key.toList, pieces, Text.intercalate_splitAll]

end UnitPlan

/-! ### Manifests -/

namespace Manifest

/-- The files of a manifest, unit by unit. -/
theorem preview_eq (manifest : Manifest) (root : String) :
    manifest.preview root = manifest.units.map fun u =>
      UnitSource.file (manifest.directory root) ⟨u, manifest.output.indent,
        manifest.output.overwrite⟩ := by
  rw [preview, sources, List.map_map]
  rfl

/-- What has been written stands at the paths that have been shown. -/
theorem map_fst_writeAll {σ : Type} [Storage σ] {base : String} {files : List UnitSource}
    {disk : σ} {outcomes : List (String × WriteOutcome)}
    (done : (writeAll base files disk).2 = .ok outcomes) :
    outcomes.map Prod.fst = files.map (·.path base) := by
  induction files generalizing disk outcomes with
  | nil =>
      cases done
      rfl
  | cons s files ih =>
      unfold writeAll at done
      split at done
      · cases done
      · split at done
        · cases done
        · next later =>
            cases done
            rw [List.map_cons, List.map_cons, ih (congrArg Prod.snd later)]

theorem map_fst_generate {σ : Type} [Storage σ] {manifest : Manifest} {root : String} {disk : σ}
    {outcomes : List (String × WriteOutcome)}
    (done : (manifest.generate root disk).2 = .ok outcomes) :
    outcomes.map Prod.fst = (manifest.preview root).map File.path := by
  rw [map_fst_writeAll done, preview, List.map_map]
  rfl

end Manifest

namespace ManifestPlan

variable {m : ManifestPlan} {site : PlanSite} {manifest : Manifest}

/-- The units of an accepted manifest are named like the types that its files declare. -/
theorem isNamed_of_accept (accepted : m.accept site = .ok manifest) :
    List.Forall₂ (fun u file => u.IsNamed file.decl.type) m.units manifest.units := by
  refine (stands_of_accept accepted).imp fun u file has => ?_
  obtain ⟨t, named, stands⟩ := has
  rwa [stands.outline.type]

/-- **The files of an accepted manifest** stay below the directory for the files: the path
leads down from there through the parts of a package to a source file, and every one of
these steps is a plain name. -/
theorem below_of_accept (accepted : m.accept site = .ok manifest) (root : String) :
    ∀ f ∈ manifest.preview root, ∃ u ∈ manifest.units,
      f.path = Path.below (manifest.directory root)
        (u.packageNames ++ [u.decl.type.name ++ ".java"]) ∧
      (∀ name ∈ u.packageNames, Path.IsPlainName name) ∧
      Path.IsPlainName (u.decl.type.name ++ ".java") := by
  intro f member
  rw [Manifest.preview_eq, List.mem_map] at member
  obtain ⟨u, found, rfl⟩ := member
  obtain ⟨planned, -, named⟩ := exists_mem_zip (isNamed_of_accept accepted) found
  have placed := named.isPlaced
  exact ⟨u, found, UnitSource.path_eq_below placed _, placed.isPlainName_package,
    placed.isPlainName_file⟩

theorem length_preview_of_accept (accepted : m.accept site = .ok manifest) (root : String) :
    (manifest.preview root).length = m.units.length := by
  rw [Manifest.preview_eq, List.length_map, (isNamed_of_accept accepted).length_eq]

/-- **The files of units that are spelled out** are different files, even when separators
are repeated in their paths. -/
theorem names_ne_of_accept (accepted : m.accept site = .ok manifest) (root : String) :
    (m.units.zip (manifest.preview root)).Pairwise fun a b =>
      a.1.IsSpelledOut → b.1.IsSpelledOut → Path.names a.2.path ≠ Path.names b.2.path := by
  have named := isNamed_of_accept accepted
  have apart := nodup_keys_of_accept accepted
  -- The keys of the pairs are those of the units, which are all different.
  have keys : (m.units.zip manifest.units).Pairwise fun a b => a.1.key ≠ b.1.key := by
    rwa [List.Nodup, List.pairwise_map, ← List.map_fst_zip named.length_eq.le,
      List.pairwise_map] at apart
  rw [Manifest.preview_eq, List.zip_map_right, List.pairwise_map]
  refine keys.imp_of_mem ?_
  rintro ⟨u, f⟩ ⟨v, g⟩ first second differ spelledOut spelledOut' same
  have here := (List.forall₂_iff_zip.mp named).2 first
  have there := (List.forall₂_iff_zip.mp named).2 second
  dsimp only [Prod.map, UnitSource.file] at same
  rw [UnitSource.path_eq_below here.isPlaced, UnitSource.path_eq_below there.isPlaced,
    Path.names_below _ here.isPlaced.isPlainName, Path.names_below _ there.isPlaced.isPlainName]
    at same
  exact differ (here.key_eq there spelledOut spelledOut' (List.append_cancel_left same))

end ManifestPlan

namespace Manifest

/-- **Files stay below their directory.**  For every file of a manifest that has been read,
the path leads from the directory for the files down through the parts of a package to a
source file.  Every one of these steps is a plain name. -/
theorem preview_below (source file : String) (manifest : Manifest)
    (parsed : Manifest.parse source file = .ok manifest) (root : String) :
    ∀ f ∈ manifest.preview root, ∃ u ∈ manifest.units,
      f.path = Path.below (manifest.directory root)
        (u.packageNames ++ [u.decl.type.name ++ ".java"]) ∧
      (∀ name ∈ u.packageNames, Path.IsPlainName name) ∧
      Path.IsPlainName (u.decl.type.name ++ ".java") := by
  obtain ⟨m, -, accepted⟩ := parse_eq_ok_iff.mp parsed
  exact ManifestPlan.below_of_accept accepted root

/-- A class whose package has an empty part. -/
def stray : String :=
  "[[unit]]\ntype = \"com..foo.Stray\"\n"

theorem preview_below_stray :
    ∃ manifest, Manifest.parse stray "jgen.toml" = .ok manifest ∧
      ∀ f ∈ manifest.preview "out", ∃ u ∈ manifest.units,
        f.path = Path.below (manifest.directory "out")
          (u.packageNames ++ [u.decl.type.name ++ ".java"]) ∧
        (∀ name ∈ u.packageNames, Path.IsPlainName name) ∧
        Path.IsPlainName (u.decl.type.name ++ ".java") := by
  obtain ⟨manifest, parsed, -⟩ :
      ∃ manifest, Manifest.parse stray "jgen.toml" = .ok manifest ∧ manifest.units.length = 1 :=
    exists_eq_ok (by decide +kernel)
  exact ⟨manifest, parsed, preview_below _ _ manifest parsed "out"⟩

/-- **Units that are spelled out have files of their own.**  A manifest that has been read
has one file for each unit.  The paths of two units lead to different files, even when
separators are repeated in them, unless the type of one of the units is spelled with angle
brackets or with an empty part in its package.  Files are written to the paths that are
shown. -/
theorem parse_paths_differ (source file : String) (manifest : Manifest)
    (parsed : Manifest.parse source file = .ok manifest) :
    ∃ plan, Describes source plan ∧ ∀ root,
      (manifest.preview root).length = plan.units.length ∧
      (plan.units.zip (manifest.preview root)).Pairwise (fun a b =>
        a.1.IsSpelledOut → b.1.IsSpelledOut → Path.names a.2.path ≠ Path.names b.2.path) ∧
      ∀ {σ : Type} [Storage σ] (disk : σ) (outcomes : List (String × WriteOutcome)),
        (manifest.generate root disk).2 = .ok outcomes →
          outcomes.map Prod.fst = (manifest.preview root).map File.path := by
  obtain ⟨m, described, accepted⟩ := parse_eq_ok_iff.mp parsed
  exact ⟨m, described, fun root => ⟨ManifestPlan.length_preview_of_accept accepted root,
    ManifestPlan.names_ne_of_accept accepted root, fun disk outcomes => map_fst_generate⟩⟩

/-- Two classes in one package. -/
def neighbours : String :=
  "[[unit]]\ntype = \"foo.A\"\n[[unit]]\ntype = \"foo.B\"\n"

theorem parse_paths_differ_neighbours :
    ∃ manifest, Manifest.parse neighbours "jgen.toml" = .ok manifest ∧
      ∃ plan, Describes neighbours plan ∧ ∀ root,
        (manifest.preview root).length = plan.units.length ∧
        (plan.units.zip (manifest.preview root)).Pairwise (fun a b =>
          a.1.IsSpelledOut → b.1.IsSpelledOut → Path.names a.2.path ≠ Path.names b.2.path) ∧
        ∀ {σ : Type} [Storage σ] (disk : σ) (outcomes : List (String × WriteOutcome)),
          (manifest.generate root disk).2 = .ok outcomes →
            outcomes.map Prod.fst = (manifest.preview root).map File.path := by
  obtain ⟨manifest, parsed, -⟩ :
      ∃ manifest, Manifest.parse neighbours "jgen.toml" = .ok manifest ∧
        manifest.units.length = 2 :=
    exists_eq_ok (by decide +kernel)
  exact ⟨manifest, parsed, parse_paths_differ _ _ manifest parsed⟩

/-- Three spellings of one class. -/
def doubles : String :=
  "[[unit]]\ntype = \"foo.A\"\n[[unit]]\ntype = \"foo.A<>\"\n[[unit]]\ntype = \"foo..A\"\n"

/-- **Units can share a file**: angle brackets with nothing in them, and empty parts of a
package, get lost on the way to the path. -/
theorem parse_paths_collide :
    ∃ manifest, Manifest.parse doubles "jgen.toml" = .ok manifest ∧
      ¬ ((manifest.preview "").map File.path).Nodup :=
  exists_eq_ok (by decide +kernel)

end Manifest

end JavaScaffold
