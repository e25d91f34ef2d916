import JavaScaffold.Proofs.Nesting
import JavaScaffold.Unit.Basic
import Mathlib.Tactic.ByContra

/-!
# Import walks

Every way to ask a compilation unit for imports comes down to one walk over nodes
of type references.  At each node the unit either registers one more import or
stays as it is, and this module says once and for all which of the two happens.

## Main Definitions

* `CompilationUnit.Eligible` — the declaration of a unit allows the import that a
  node asks for
* `CompilationUnit.Binds` — a registered import makes a simple name visible
* `CompilationUnit.register` — a unit with one more import
* `CompilationUnit.walk` — the imports of a list of nodes, one after the other
* `ImportRequest`, `CompilationUnit.requestAll` — the operations that add imports,
  and a run of them

## Main Statements

* `CompilationUnit.visit_cases` — what one node does to a unit
* `CompilationUnit.requestAll_eq_walk` — a run of requests is one walk

## Design Notes

The guard of an import looks at two things: the declaration of the unit, which no
request changes, and the simple names that are bound already.  `Eligible` is the
first half and `¬ Binds` the second.  Only the second half depends on the moment,
so an argument about a run has to follow the bound names and nothing else.
-/

namespace JavaScaffold

theorem insertImport_perm (i : Import) (imports : List Import) :
    (insertImport i imports).Perm (i :: imports) := by
  induction imports with
  | nil => exact .refl _
  | cons j js ih =>
      rw [insertImport]
      split
      · exact .refl _
      · exact (ih.cons j).trans (.swap i j js)

namespace CompilationUnit

variable {u v : CompilationUnit} {t : TypeRef} {path name : String}

/-! ### The two halves of the guard -/

/-- **Eligibility.**  The node of `t` asks for the import `path`, its type is not
in the package of the unit, and the simple name of the import is neither that of
the unit nor that of a declaration inside the unit. -/
structure Eligible (u : CompilationUnit) (t : TypeRef) (path : String) : Prop where
  /-- The import is the one that the node asks for. -/
  asked : t.importPath? = some path
  /-- The type is not in the package of the unit. -/
  foreign : t.package ≠ u.package
  /-- The unit itself has another simple name. -/
  notOwn : simpleName path ≠ u.ownName
  /-- No declaration inside the unit has this simple name. -/
  notNested : ∀ e, u.decl.Encloses e → e.declaredName ≠ simpleName path

/-- A node has at most one eligible import. -/
theorem Eligible.unique {other : String} (first : u.Eligible t path) (second : u.Eligible t other) :
    path = other :=
  Option.some.inj (first.asked.symm.trans second.asked)

/-- `u.Binds name` holds when a registered import makes `name` visible. -/
def Binds (u : CompilationUnit) (name : String) : Prop :=
  ∃ path ∈ u.importPaths, simpleName path = name

/-- An import that a node asks for passes the guard exactly when it is eligible
and its simple name is free.  The test for the very same import is no condition of
its own, because such an import binds its simple name. -/
theorem refuses_eq_false_iff (asked : t.importPath? = some path) :
    u.refuses t.package path = false ↔
      u.Eligible t path ∧ ¬ u.Binds (simpleName path) := by
  simp only [refuses, Bool.or_eq_false_iff, List.contains_eq_mem, decide_eq_false_iff_not,
    beq_eq_false_iff_ne, List.any_eq_false, beq_iff_eq]
  constructor
  · rintro ⟨⟨⟨⟨-, foreign⟩, notOwn⟩, notNested⟩, free⟩
    refine ⟨⟨asked, foreign, notOwn, fun e enclosed same => ?_⟩, ?_⟩
    · exact notNested (TypeDecl.mem_nestedNames_iff.mpr ⟨e, enclosed, same⟩)
    · rintro ⟨other, registered, same⟩
      exact free other registered same
  · rintro ⟨eligible, free⟩
    refine ⟨⟨⟨⟨fun registered => free ⟨path, registered, rfl⟩, eligible.foreign⟩,
      eligible.notOwn⟩, fun collected => ?_⟩, fun other registered same => ?_⟩
    · obtain ⟨e, enclosed, same⟩ := TypeDecl.mem_nestedNames_iff.mp collected
      exact eligible.notNested e enclosed same
    · exact free ⟨other, registered, same⟩

/-! ### Registering an import -/

/-- The unit `u` with the import `path` for the type `t`. -/
def register (u : CompilationUnit) (t : TypeRef) (path : String) : CompilationUnit :=
  { u with imports := insertImport ⟨path, { t with args := [] }⟩ u.imports }

@[simp] theorem register_decl : (u.register t path).decl = u.decl := rfl

theorem importPaths_register_perm :
    (u.register t path).importPaths.Perm (path :: u.importPaths) :=
  (insertImport_perm ⟨path, { t with args := [] }⟩ u.imports).map Import.path

@[simp] theorem mem_importPaths_register {other : String} :
    other ∈ (u.register t path).importPaths ↔ other = path ∨ other ∈ u.importPaths := by
  rw [importPaths_register_perm.mem_iff, List.mem_cons]

@[simp] theorem binds_register :
    (u.register t path).Binds name ↔ simpleName path = name ∨ u.Binds name := by
  constructor
  · rintro ⟨other, registered, rfl⟩
    rcases mem_importPaths_register.mp registered with rfl | old
    · exact .inl rfl
    · exact .inr ⟨other, old, rfl⟩
  · rintro (rfl | ⟨other, old, rfl⟩)
    · exact ⟨path, mem_importPaths_register.mpr (.inl rfl), rfl⟩
    · exact ⟨other, mem_importPaths_register.mpr (.inr old), rfl⟩

/-- Eligibility depends on the declaration of a unit only. -/
theorem Eligible.of_decl_eq (same : u.decl = v.decl) (eligible : u.Eligible t path) :
    v.Eligible t path where
  asked := eligible.asked
  foreign := by
    rw [package, ← same]
    exact eligible.foreign
  notOwn := by
    rw [ownName, ← same]
    exact eligible.notOwn
  notNested := by
    rw [← same]
    exact eligible.notNested

/-! ### One node -/

theorem importNode?_eq_some_iff :
    u.importNode? t = some v ↔
      ∃ path, u.Eligible t path ∧ ¬ u.Binds (simpleName path) ∧ v = u.register t path := by
  rw [importNode?]
  cases asked : t.importPath? with
  | none =>
      constructor
      · intro extended
        cases extended
      · rintro ⟨path, eligible, -, -⟩
        rw [eligible.asked] at asked
        cases asked
  | some path =>
      dsimp only
      constructor
      · intro extended
        split at extended
        · cases extended
        · next passes =>
            obtain ⟨eligible, free⟩ :=
              (refuses_eq_false_iff asked).mp (Bool.eq_false_iff.mpr passes)
            exact ⟨path, eligible, free, (Option.some.inj extended).symm⟩
      · rintro ⟨other, eligible, free, rfl⟩
        obtain rfl : path = other := Option.some.inj (asked.symm.trans eligible.asked)
        rw [(refuses_eq_false_iff asked).mpr ⟨eligible, free⟩]
        rfl

/-- The unit `u` after a visit to the node of `t`: with the import that the node
asks for, or unchanged. -/
def visit (u : CompilationUnit) (t : TypeRef) : CompilationUnit :=
  (u.importNode? t).getD u

theorem visit_of_none (refused : u.importNode? t = none) : u.visit t = u := by
  rw [visit, refused, Option.getD_none]

theorem visit_of_some (extended : u.importNode? t = some v) : u.visit t = v := by
  rw [visit, extended, Option.getD_some]

theorem importStep_of_none (refused : u.importNode? t = none) (note : Bool) :
    importStep (u, note) t = (u, note) := by
  simp only [importStep, refused]

theorem importStep_of_some (extended : u.importNode? t = some v) (note : Bool) :
    importStep (u, note) t = (v, true) := by
  simp only [importStep, extended]

/-- **What one node does.**  Either its import is eligible and its simple name was
free, and the import is registered; or every eligible import of the node has a
simple name that is bound already, and nothing happens. -/
theorem visit_cases (u : CompilationUnit) (t : TypeRef) :
    (∃ path, u.Eligible t path ∧ ¬ u.Binds (simpleName path) ∧ u.visit t = u.register t path) ∨
      ((∀ path, u.Eligible t path → u.Binds (simpleName path)) ∧ u.visit t = u) := by
  cases answer : u.importNode? t with
  | some v =>
      obtain ⟨path, eligible, free, rfl⟩ := importNode?_eq_some_iff.mp answer
      exact .inl ⟨path, eligible, free, visit_of_some answer⟩
  | none =>
      refine .inr ⟨fun path eligible => ?_, visit_of_none answer⟩
      -- An eligible import with a free simple name would not have been refused.
      by_contra free
      have registered := importNode?_eq_some_iff.mpr ⟨path, eligible, free, rfl⟩
      rw [answer] at registered
      cases registered

@[simp] theorem visit_decl (u : CompilationUnit) (t : TypeRef) : (u.visit t).decl = u.decl := by
  rcases u.visit_cases t with ⟨path, -, -, h⟩ | ⟨-, h⟩
  · rw [h, register_decl]
  · rw [h]

/-- No visit takes an import away. -/
theorem mem_importPaths_visit (registered : path ∈ u.importPaths) :
    path ∈ (u.visit t).importPaths := by
  rcases u.visit_cases t with ⟨new, -, -, h⟩ | ⟨-, h⟩
  · rw [h]
    exact mem_importPaths_register.mpr (.inr registered)
  · rwa [h]

/-- After a visit to a node with an eligible import, that simple name is bound:
by the import itself, or by the one that came before it. -/
theorem binds_visit_of_eligible (eligible : u.Eligible t path) :
    (u.visit t).Binds (simpleName path) := by
  rcases u.visit_cases t with ⟨other, accepted, -, h⟩ | ⟨taken, h⟩
  · obtain rfl := eligible.unique accepted
    rw [h]
    exact binds_register.mpr (.inl rfl)
  · rw [h]
    exact taken path eligible

/-! ### A walk over nodes -/

/-- The unit `u` after visits to the nodes `ns`, in order. -/
def walk (u : CompilationUnit) (ns : List TypeRef) : CompilationUnit :=
  ns.foldl visit u

@[simp] theorem walk_nil (u : CompilationUnit) : u.walk [] = u := rfl

@[simp] theorem walk_cons (u : CompilationUnit) (n : TypeRef) (ns : List TypeRef) :
    u.walk (n :: ns) = (u.visit n).walk ns := rfl

theorem walk_append (u : CompilationUnit) (ns ms : List TypeRef) :
    u.walk (ns ++ ms) = (u.walk ns).walk ms :=
  List.foldl_append

@[simp] theorem walk_decl (u : CompilationUnit) (ns : List TypeRef) :
    (u.walk ns).decl = u.decl := by
  induction ns generalizing u with
  | nil => rfl
  | cons n ns ih => rw [walk_cons, ih, visit_decl]

/-- **Invariants of walks.**  What every visit preserves, every walk preserves. -/
theorem walk_preserves {motive : CompilationUnit → Prop}
    (step : ∀ v t, motive v → motive (v.visit t)) (ns : List TypeRef) (start : motive u) :
    motive (u.walk ns) := by
  induction ns generalizing u with
  | nil => exact start
  | cons n ns ih => exact ih (step u n start)

/-- No walk takes an import away. -/
theorem mem_importPaths_walk_of_mem (ns : List TypeRef) (registered : path ∈ u.importPaths) :
    path ∈ (u.walk ns).importPaths :=
  walk_preserves (motive := fun v => path ∈ v.importPaths)
    (fun _ _ => mem_importPaths_visit) ns registered

/-- An import that a walk leaves was there before, or a node asked for it. -/
theorem mem_or_asked_of_walk {ns : List TypeRef} (found : path ∈ (u.walk ns).importPaths) :
    path ∈ u.importPaths ∨ ∃ n ∈ ns, n.importPath? = some path := by
  induction ns generalizing u with
  | nil => exact .inl found
  | cons n ns ih =>
      rcases ih found with before | ⟨later, member, asked⟩
      · rcases u.visit_cases n with ⟨other, eligible, -, extended⟩ | ⟨-, same⟩
        · rw [extended] at before
          rcases mem_importPaths_register.mp before with rfl | old
          · exact .inr ⟨n, List.mem_cons_self, eligible.asked⟩
          · exact .inl old
        · rw [same] at before
          exact .inl before
      · exact .inr ⟨later, List.mem_cons_of_mem _ member, asked⟩

theorem Binds.walk (ns : List TypeRef) : u.Binds name → (u.walk ns).Binds name := by
  rintro ⟨path, registered, rfl⟩
  exact ⟨path, mem_importPaths_walk_of_mem ns registered, rfl⟩

/-- A walk past a node with an eligible import leaves that simple name bound. -/
theorem binds_walk_of_eligible {ns : List TypeRef} (member : t ∈ ns)
    (eligible : u.Eligible t path) : (u.walk ns).Binds (simpleName path) := by
  obtain ⟨front, back, rfl⟩ := List.append_of_mem member
  rw [walk_append, walk_cons]
  refine Binds.walk back (binds_visit_of_eligible ?_)
  exact eligible.of_decl_eq (u.walk_decl front).symm

/-! ### Adding imports is walking -/

theorem importStep_fst (state : CompilationUnit × Bool) (t : TypeRef) :
    (importStep state t).1 = state.1.visit t := by
  cases answer : state.1.importNode? t with
  | none => rw [importStep_of_none answer, visit_of_none answer]
  | some v => rw [importStep_of_some answer, visit_of_some answer]

theorem foldl_importStep_fst (state : CompilationUnit × Bool) (ns : List TypeRef) :
    (ns.foldl importStep state).1 = state.1.walk ns := by
  induction ns generalizing state with
  | nil => rfl
  | cons n ns ih => rw [List.foldl_cons, ih, importStep_fst, walk_cons]

theorem addImport_fst (u : CompilationUnit) (t : TypeRef) :
    (u.addImport t).1 = u.walk t.nodes :=
  foldl_importStep_fst (u, false) t.nodes

theorem addImports_eq_walk (u : CompilationUnit) (ts : List TypeRef) :
    u.addImports ts = u.walk (TypeRef.nodesAll ts) := by
  induction ts generalizing u with
  | nil => rfl
  | cons t ts ih =>
      rw [TypeRef.nodesAll, walk_append, ← addImport_fst, ← ih]
      rfl

end CompilationUnit

/-! ### Requests -/

/-- **A request for imports**: one of the ways in which imports come to a unit. -/
inductive ImportRequest
  /-- The imports of one reference. -/
  | reference (t : TypeRef)
  /-- The imports of some references. -/
  | references (ts : List TypeRef)
  /-- The imports of everything that the declaration of the unit refers to. -/
  | declared

/-- The nodes that a request walks over, for a unit with the declaration `d`. -/
def ImportRequest.nodes (d : TypeDecl) : ImportRequest → List TypeRef
  | reference t => t.nodes
  | references ts => TypeRef.nodesAll ts
  | declared => TypeRef.nodesAll d.referencedTypes

namespace CompilationUnit

/-- The unit `u` after a request. -/
def request (u : CompilationUnit) : ImportRequest → CompilationUnit
  | .reference t => (u.addImport t).1
  | .references ts => u.addImports ts
  | .declared => u.importReferenced

/-- The unit `u` after some requests, in order. -/
def requestAll (u : CompilationUnit) (requests : List ImportRequest) : CompilationUnit :=
  requests.foldl request u

theorem request_eq_walk (u : CompilationUnit) (r : ImportRequest) :
    u.request r = u.walk (r.nodes u.decl) := by
  cases r with
  | reference t => exact u.addImport_fst t
  | references ts => exact u.addImports_eq_walk ts
  | declared => exact u.addImports_eq_walk u.decl.referencedTypes

/-- **A run of requests is one walk**, over the nodes of all of them. -/
theorem requestAll_eq_walk (u : CompilationUnit) (requests : List ImportRequest) :
    u.requestAll requests = u.walk (requests.flatMap (ImportRequest.nodes u.decl)) := by
  induction requests generalizing u with
  | nil => rfl
  | cons r rest ih =>
      -- The nodes of the later requests are those for the declaration at the start.
      have first : (u.request r).decl = u.decl := by
        rw [request_eq_walk, walk_decl]
      rw [requestAll, List.foldl_cons, ← requestAll, ih, first, List.flatMap_cons, walk_append,
        request_eq_walk]

@[simp] theorem requestAll_decl (u : CompilationUnit) (requests : List ImportRequest) :
    (u.requestAll requests).decl = u.decl := by
  rw [requestAll_eq_walk, walk_decl]

end CompilationUnit

end JavaScaffold
