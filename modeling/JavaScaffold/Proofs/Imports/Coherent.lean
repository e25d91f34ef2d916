import JavaScaffold.Proofs.Imports.Walk
import JavaScaffold.Proofs.TypeRef.Names
import Mathlib.Data.List.Nodup
import Mathlib.Data.String.Basic

/-!
# The invariant of an import set

However imports have come to a unit, they stand in strictly ascending order, they
bind pairwise different simple names, and each of them was eligible for the unit.
Both halves of the guard are needed for the second point: the imports are ordered
by their whole paths, so the order alone does not keep two classes of one simple
name apart.

## Main Definitions

* `CompilationUnit.ImportsCoherent` — the invariant

## Main Statements

* `CompilationUnit.ImportsCoherent.visit` — one node preserves it
* `CompilationUnit.importsCoherent_requestAll` — every run of requests establishes it
* `CompilationUnit.imports_after_requests` — what it says about the paths and the
  stored types, spelled out
-/

namespace JavaScaffold

/-- A new path finds its place in an ascending list of paths. -/
theorem pairwise_insertImport {i : Import} {imports : List Import}
    (ascending : (imports.map Import.path).Pairwise (· < ·))
    (new : i.path ∉ imports.map Import.path) :
    ((insertImport i imports).map Import.path).Pairwise (· < ·) := by
  induction imports with
  | nil => exact List.pairwise_singleton _ _
  | cons j js ih =>
      rw [List.map_cons, List.pairwise_cons] at ascending
      obtain ⟨below, rest⟩ := ascending
      rw [List.map_cons, List.mem_cons, not_or] at new
      rw [insertImport]
      split
      · next before =>
          rw [List.map_cons, List.map_cons, List.pairwise_cons]
          refine ⟨fun path member => ?_, List.pairwise_cons.mpr ⟨below, rest⟩⟩
          rcases List.mem_cons.mp member with rfl | later
          · exact before
          · exact before.trans (below path later)
      · next notBefore =>
          rw [List.map_cons, List.pairwise_cons]
          refine ⟨fun path member => ?_, ih rest new.2⟩
          -- What follows `j` now is the new path, which is not `j`, or an old one.
          have among : path ∈ (i :: js).map Import.path :=
            ((insertImport_perm i js).map Import.path).mem_iff.mp member
          rcases List.mem_cons.mp among with rfl | later
          · exact lt_of_le_of_ne (not_lt.mp notBefore) (Ne.symm new.1)
          · exact below path later

namespace CompilationUnit

variable {u : CompilationUnit} {t : TypeRef} {path other : String}

/-- **The invariant.**  The paths ascend, their simple names are pairwise
different, and every import is stored with an eligible type without arguments. -/
structure ImportsCoherent (u : CompilationUnit) : Prop where
  /-- The paths of the imports are in strictly ascending order. -/
  ascending : u.importPaths.Pairwise (· < ·)
  /-- No two imports bind the same simple name. -/
  distinctNames : (u.importPaths.map simpleName).Nodup
  /-- Every import is one that the declaration of the unit allows to its type. -/
  eligible : ∀ i ∈ u.imports, u.Eligible i.type i.path
  /-- The stored types have no arguments. -/
  bare : ∀ i ∈ u.imports, i.type.args = []

namespace ImportsCoherent

/-- A unit without imports is coherent. -/
theorem ofDecl (d : TypeDecl) : (CompilationUnit.ofDecl d).ImportsCoherent where
  ascending := .nil
  distinctNames := .nil
  eligible := by
    intro i member
    cases member
  bare := by
    intro i member
    cases member

/-- An eligible import whose simple name is free keeps a unit coherent. -/
theorem register (coherent : u.ImportsCoherent) (eligible : u.Eligible t path)
    (free : ¬ u.Binds (simpleName path)) : (u.register t path).ImportsCoherent where
  ascending := by
    refine pairwise_insertImport coherent.ascending fun registered => ?_
    exact free ⟨path, registered, rfl⟩
  distinctNames := by
    -- The place of the new path does not matter here, only that its name is free.
    rw [(importPaths_register_perm.map simpleName).nodup_iff, List.map_cons, List.nodup_cons]
    refine ⟨fun taken => ?_, coherent.distinctNames⟩
    exact free (List.mem_map.mp taken)
  eligible := by
    intro i member
    rcases List.mem_cons.mp ((insertImport_perm _ _).mem_iff.mp member) with rfl | old
    · exact ⟨eligible.asked, eligible.foreign, eligible.notOwn, eligible.notNested⟩
    · exact (coherent.eligible i old).of_decl_eq register_decl.symm
  bare := by
    intro i member
    rcases List.mem_cons.mp ((insertImport_perm _ _).mem_iff.mp member) with rfl | old
    · rfl
    · exact coherent.bare i old

/-- **One node preserves the invariant.** -/
theorem visit (coherent : u.ImportsCoherent) (t : TypeRef) : (u.visit t).ImportsCoherent := by
  rcases u.visit_cases t with ⟨path, eligible, free, h⟩ | ⟨-, h⟩
  · rw [h]
    exact coherent.register eligible free
  · rwa [h]

/-- Every registered path is the path of a stored import. -/
theorem exists_eligible (coherent : u.ImportsCoherent) (registered : path ∈ u.importPaths) :
    ∃ t, u.Eligible t path := by
  obtain ⟨i, member, rfl⟩ := List.mem_map.mp registered
  exact ⟨i.type, coherent.eligible i member⟩

/-- Two registered paths with the same simple name are the same path. -/
theorem eq_of_simpleName_eq (coherent : u.ImportsCoherent) (first : path ∈ u.importPaths)
    (second : other ∈ u.importPaths) (same : simpleName path = simpleName other) :
    path = other :=
  List.inj_on_of_nodup_map coherent.distinctNames first second same

end ImportsCoherent

/-- **Every run of requests establishes the invariant.** -/
theorem importsCoherent_requestAll (d : TypeDecl) (requests : List ImportRequest) :
    ((ofDecl d).requestAll requests).ImportsCoherent := by
  rw [requestAll_eq_walk]
  exact walk_preserves (fun _ t coherent => coherent.visit t) _ (ImportsCoherent.ofDecl d)

/-- **The imports of a unit after any requests.**  The paths ascend strictly and
bind pairwise different simple names; none of these is the first segment of the
name of the unit or the last segment of the name of a declaration inside it; and
every path is stored with a type that asks for exactly this import, needs one, has
no arguments and is not in the package of the unit. -/
theorem imports_after_requests (d : TypeDecl) (requests : List ImportRequest) :
    let u := (ofDecl d).requestAll requests
    u.importPaths.Pairwise (· < ·) ∧
      (u.importPaths.map simpleName).Nodup ∧
      (∀ path ∈ u.importPaths,
        simpleName path ≠ Text.beforeFirst '.' d.type.name ∧
          ∀ e, d.Encloses e → simpleName path ≠ Text.afterLast '.' e.type.name) ∧
      (∀ i ∈ u.imports,
        i.type.importPath? = some i.path ∧ i.type.isImportable = true ∧ i.type.args = [] ∧
          i.type.package ≠ d.type.package) := by
  intro u
  have coherent : u.ImportsCoherent := importsCoherent_requestAll d requests
  have sameDecl : u.decl = d := requestAll_decl (ofDecl d) requests
  refine ⟨coherent.ascending, coherent.distinctNames, fun path registered => ?_,
    fun i member => ?_⟩
  · obtain ⟨t, eligible⟩ := coherent.exists_eligible registered
    rw [← sameDecl]
    exact ⟨eligible.notOwn, fun e enclosed => (eligible.notNested e enclosed).symm⟩
  · have eligible := coherent.eligible i member
    rw [← sameDecl]
    exact ⟨eligible.asked, TypeNode.exists_importPath?_iff.mp ⟨i.path, eligible.asked⟩,
      coherent.bare i member, eligible.foreign⟩

end CompilationUnit

end JavaScaffold
