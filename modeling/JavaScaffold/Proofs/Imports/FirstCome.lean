import JavaScaffold.Proofs.Imports.Walk
import Mathlib.Data.Set.Lattice
import Mathlib.Order.CompletePartialOrder

/-!
# First come, first imported

A class whose simple name is taken stays without an import, so which of two
classes with one simple name is imported depends on the order of the walk.  This
module says what the import set of a unit is after a walk without running it: the
old imports, and for every simple name that none of them binds the import of the
first eligible node with that name.

## Main Definitions

* `CompilationUnit.FirstCome` — the import of the first eligible node with its
  simple name
* `CompilationUnit.importSet` — the registered paths as a set
* `CompilationUnit.addArgument` — the imports of one more type argument

## Main Statements

* `CompilationUnit.addImport_eq` — the imports of a reference are those of its
  arguments, left to right, and then that of its own node
* `CompilationUnit.mem_importPaths_walk` — the import set after a walk
* `CompilationUnit.importSet_addImports` — the import set after the imports of some
  references, what the note of a new import says, and the recursion over the arguments
-/

namespace JavaScaffold

namespace CompilationUnit

variable {u : CompilationUnit} {t : TypeRef} {ns : List TypeRef} {path : String}

/-! ### The recursion over the arguments -/

/-- The imports of one more type argument, and whether there has been any new one
so far. -/
def addArgument (state : CompilationUnit × Bool) (argument : TypeRef) : CompilationUnit × Bool :=
  ((state.1.addImport argument).1, state.2 || (state.1.addImport argument).2)

/-- What a walk does to a unit does not depend on the note it starts with, and the
note is never taken back. -/
theorem foldl_importStep_note (u : CompilationUnit) (note : Bool) (ns : List TypeRef) :
    ns.foldl importStep (u, note) =
      ((ns.foldl importStep (u, false)).1, note || (ns.foldl importStep (u, false)).2) := by
  induction ns generalizing u note with
  | nil => rw [List.foldl_nil, List.foldl_nil, Bool.or_false]
  | cons n ns ih =>
      rw [List.foldl_cons, List.foldl_cons]
      cases answer : u.importNode? n with
      | none => rw [importStep_of_none answer, importStep_of_none answer, ih]
      | some v =>
          rw [importStep_of_some answer, importStep_of_some answer, ih v true, Bool.true_or,
            Bool.or_true]

/-- **The imports of a reference**: those of its arguments, from left to right,
and then that of its own node.  Every argument is visited, also after one that has
brought a new import. -/
theorem addImport_eq (u : CompilationUnit) (t : TypeRef) :
    u.addImport t = importStep (t.args.foldl addArgument (u, false)) t := by
  have arguments : ∀ (ts : List TypeRef) (state : CompilationUnit × Bool),
      (ts.flatMap TypeRef.nodes).foldl importStep state = ts.foldl addArgument state := by
    intro ts
    induction ts with
    | nil => exact fun _ => rfl
    | cons a ts ih =>
        intro state
        rw [List.flatMap_cons, List.foldl_append, ih, List.foldl_cons,
          foldl_importStep_note state.1 state.2]
        rfl
  rw [addImport, TypeRef.nodes_eq, List.foldl_append, arguments]
  rfl

/-! ### First come -/

/-- **The first comer.**  No import of `u` binds the simple name of `path`, and
among the nodes `ns` the first one with an eligible import of that simple name
asks for `path`. -/
def FirstCome (u : CompilationUnit) (ns : List TypeRef) (path : String) : Prop :=
  ¬ u.Binds (simpleName path) ∧
    ∃ front n back, ns = front ++ n :: back ∧ u.Eligible n path ∧
      ∀ m ∈ front, ∀ earlier, u.Eligible m earlier → simpleName earlier ≠ simpleName path

@[simp] theorem not_firstCome_nil : ¬ u.FirstCome [] path := by
  rintro ⟨-, front, n, back, empty, -⟩
  cases front <;> cases empty

/-- The first node decides for the simple name that it asks for, and leaves every
other simple name to the rest. -/
theorem firstCome_cons {n : TypeRef} :
    u.FirstCome (n :: ns) path ↔
      (¬ u.Binds (simpleName path) ∧ u.Eligible n path) ∨
        ((∀ earlier, u.Eligible n earlier → simpleName earlier ≠ simpleName path) ∧
          u.FirstCome ns path) := by
  constructor
  · rintro ⟨free, front, m, back, split, eligible, first⟩
    cases front with
    | nil =>
        obtain ⟨rfl, -⟩ := List.cons.inj split
        exact .inl ⟨free, eligible⟩
    | cons k front =>
        obtain ⟨rfl, rfl⟩ := List.cons.inj split
        refine .inr ⟨first n List.mem_cons_self, free, front, m, back, rfl, eligible, ?_⟩
        exact fun m member => first m (List.mem_cons_of_mem n member)
  · rintro (⟨free, eligible⟩ | ⟨other, free, front, m, back, rfl, eligible, first⟩)
    · exact ⟨free, [], n, ns, rfl, eligible, fun m member => nomatch member⟩
    · refine ⟨free, n :: front, m, back, rfl, eligible, fun k member => ?_⟩
      rcases List.mem_cons.mp member with rfl | later
      · exact other
      · exact first k later

/-- A new import takes its simple name away from the later nodes and changes
nothing else for them. -/
theorem firstCome_register {new : String} :
    (u.register t new).FirstCome ns path ↔
      simpleName new ≠ simpleName path ∧ u.FirstCome ns path := by
  have same : ∀ m p, (u.register t new).Eligible m p ↔ u.Eligible m p := fun m p =>
    ⟨fun h => h.of_decl_eq register_decl, fun h => h.of_decl_eq register_decl.symm⟩
  simp only [FirstCome, binds_register, same, not_or, and_assoc, ne_eq]

/-- **The import set after a walk**: the old imports and the first comers. -/
theorem mem_importPaths_walk :
    path ∈ (u.walk ns).importPaths ↔ path ∈ u.importPaths ∨ u.FirstCome ns path := by
  induction ns generalizing u with
  | nil =>
      rw [walk_nil]
      exact ⟨.inl, fun either => either.resolve_right not_firstCome_nil⟩
  | cons n ns ih =>
      rw [walk_cons, ih, firstCome_cons]
      rcases u.visit_cases n with ⟨new, eligible, free, h⟩ | ⟨taken, h⟩
      · rw [h, firstCome_register, mem_importPaths_register]
        constructor
        · rintro ((rfl | old) | ⟨other, later⟩)
          · exact .inr (.inl ⟨free, eligible⟩)
          · exact .inl old
          · refine .inr (.inr ⟨fun earlier candidate => ?_, later⟩)
            rwa [candidate.unique eligible]
        · rintro (old | ⟨-, here⟩ | ⟨other, later⟩)
          · exact .inl (.inr old)
          · exact .inl (.inl (here.unique eligible))
          · exact .inr ⟨other new eligible, later⟩
      · rw [h]
        -- The node changes nothing, so it must not count as a first comer either.
        constructor
        · rintro (old | later)
          · exact .inl old
          · refine .inr (.inr ⟨fun earlier candidate same => ?_, later⟩)
            exact later.1 (same ▸ taken earlier candidate)
        · rintro (old | ⟨free, here⟩ | ⟨-, later⟩)
          · exact .inl old
          · exact absurd (taken path here) free
          · exact .inr later

/-! ### The note of a new import -/

/-- The note at the end of a walk: it was there at the start, or some path is
registered now that was not. -/
theorem foldl_importStep_snd (u : CompilationUnit) (note : Bool) (ns : List TypeRef) :
    (ns.foldl importStep (u, note)).2 = true ↔
      note = true ∨ ∃ path ∈ (u.walk ns).importPaths, path ∉ u.importPaths := by
  induction ns generalizing u note with
  | nil =>
      rw [List.foldl_nil, walk_nil]
      refine ⟨.inl, ?_⟩
      rintro (noted | ⟨path, now, before⟩)
      · exact noted
      · exact absurd now before
  | cons n ns ih =>
      rw [List.foldl_cons, walk_cons]
      cases answer : u.importNode? n with
      | none => rw [importStep_of_none answer, visit_of_none answer, ih]
      | some v =>
          rw [importStep_of_some answer, visit_of_some answer, ih]
          -- Nothing on the rest of the walk takes away the path that this node has brought.
          obtain ⟨path, -, free, rfl⟩ := importNode?_eq_some_iff.mp answer
          refine ⟨fun _ => .inr ⟨path, ?_, fun old => free ⟨path, old, rfl⟩⟩, fun _ => .inl rfl⟩
          exact mem_importPaths_walk_of_mem ns (mem_importPaths_register.mpr (.inl rfl))

/-! ### The import set -/

/-- The registered paths of a unit, as a set. -/
def importSet (u : CompilationUnit) : Set String :=
  {path | path ∈ u.importPaths}

/-- **First come, first imported.**  After the imports of some references a unit
has its old imports and, for every simple name that none of them binds, the import
of the first eligible node with that name.  The nodes stand in the order of the
references, the arguments of a node before the node itself.  And adding the imports
of a reference notes a new import exactly when the import set has grown; it adds the
imports of every argument, from left to right, and then that of the reference itself. -/
theorem importSet_addImports (u : CompilationUnit) (ts : List TypeRef) :
    (u.addImports ts).importSet =
        u.importSet ∪ {path | u.FirstCome (TypeRef.nodesAll ts) path} ∧
      ∀ t, ((u.addImport t).2 = true ↔ u.importSet ⊂ (u.addImport t).1.importSet) ∧
        u.addImport t = importStep (t.args.foldl addArgument (u, false)) t := by
  refine ⟨?_, fun t => ⟨?_, u.addImport_eq t⟩⟩
  · ext path
    rw [addImports_eq_walk]
    exact mem_importPaths_walk
  · rw [addImport_fst, Set.ssubset_iff_exists, addImport, foldl_importStep_snd]
    constructor
    · rintro (never | grown)
      · cases never
      · exact ⟨fun path old => mem_importPaths_walk_of_mem t.nodes old, grown⟩
    · exact fun grown => .inr grown.2

end CompilationUnit

end JavaScaffold
