import JavaScaffold.Proofs.Imports.Coherent
import JavaScaffold.TypeRef.Known

/-!
# Short and qualified names in a unit

A node of a type reference is written with its short name when it needs no import,
when it is in the package of the unit, or when its import is registered.  This
module says when that is: once everything that the declaration refers to has been
imported, a node is written with its qualified name exactly when its import is
blocked.

## Main Definitions

* `CompilationUnit.Blocks` — why the import of a node cannot be registered
* `CompilationUnit.IsOutside` — a node that depends on an import to be written short

## Main Statements

* `Scope.seesShort_iff` — when a node is written short
* `CompilationUnit.displayBase_importReferenced` — qualified exactly when blocked

## Design Notes

Both directions of the last statement come from the invariant of the import set.
A registered import is not blocked because the invariant says so, at whatever time
it was registered.  An import that is not registered was refused when the walk over
the references came past its node, and the reason for that is still there.
-/

namespace JavaScaffold

/-! ### One node at a site -/

/-- The import that a node asks for is there exactly when it is one of the imports. -/
theorem Scope.isImported_iff {scope : Scope} {t : TypeNode} :
    scope.isImported t = true ↔ ∃ path ∈ scope.imports, t.importPath? = some path := by
  rw [isImported]
  cases t.importPath? with
  | none => simp
  | some path => simp

/-- A node needs no qualified name exactly when it needs no import, is in the
package of the site, or has its import registered.  Primitive types have no
package, so they are no case of their own. -/
theorem Scope.seesShort_iff {scope : Scope} {t : TypeNode} :
    scope.seesShort t = true ↔
      t.isImportable = false ∨ t.package = scope.package ∨
        ∃ path ∈ scope.imports, t.importPath? = some path := by
  rw [seesShort, Bool.or_eq_true, Bool.or_eq_true, Bool.or_eq_true, Bool.not_eq_true', beq_iff_eq,
    isImported_iff]
  constructor
  · rintro (((isPrimitive | noImport) | near) | found)
    · left
      by_contra importable
      have packaged :=
        TypeNode.package_ne_empty_of_isImportable (Bool.eq_true_of_not_eq_false importable)
      rw [TypeNode.primitive?_eq_none_of_package_ne packaged] at isPrimitive
      cases isPrimitive
    · exact .inl noImport
    · exact .inr (.inl near)
    · exact .inr (.inr found)
  · rintro (noImport | near | found)
    · exact .inl (.inl (.inr noImport))
    · exact .inl (.inr near)
    · exact .inr found

namespace TypeRef

theorem displayBase_of_seesShort {scope : Scope} {t : TypeNode} (sees : scope.seesShort t = true) :
    displayBase (some scope) t = t.shortBase := by
  rw [displayBase, if_pos sees]

theorem displayBase_of_not_seesShort {scope : Scope} {t : TypeNode}
    (sees : ¬ scope.seesShort t = true) : displayBase (some scope) t = t.fullBase := by
  rw [displayBase, if_neg sees]

/-- **A reference is written** as its base name, its arguments between angle brackets if it
has any, and its brackets. -/
theorem display_eq_append (scope : Option Scope) (t : TypeRef) :
    t.display scope =
      displayBase scope t.toTypeNode ++
        (if t.args.isEmpty then ""
          else "<" ++ ", ".intercalate (t.args.map (display scope)) ++ ">") ++ t.brackets := by
  rw [display_eq, assemble, List.isEmpty_map]
  split
  · rw [String.append_empty]
  · simp only [String.append_assoc]

section Visible

/-! A node with two names shows by its text which of them was taken.  A node has two when
it has a package and no unbounded wildcard. -/

variable {scope : Scope} {t : TypeNode}

/-- A node is written with its short name when it is seen by that name, or has no other. -/
theorem displayBase_eq_shortBase_iff_imp :
    displayBase (some scope) t = t.shortBase ↔ (t.HasTwoNames → scope.seesShort t = true) := by
  rw [displayBase]
  split
  · next sees => exact iff_of_true rfl fun _ => sees
  · next sees =>
      constructor
      · intro same two
        exact absurd same two.fullBase_ne
      · intro seen
        exact TypeNode.fullBase_eq_shortBase fun two => sees (seen two)

/-- A node is written with its qualified name when it is not seen by the short one, or has
no other. -/
theorem displayBase_eq_fullBase_iff_imp :
    displayBase (some scope) t = t.fullBase ↔ (t.HasTwoNames → ¬ scope.seesShort t = true) := by
  rw [displayBase]
  split
  · next sees =>
      constructor
      · intro same two
        exact absurd same.symm two.fullBase_ne
      · intro unseen
        exact (TypeNode.fullBase_eq_shortBase fun two => unseen two sees).symm
  · next sees => exact iff_of_true rfl fun _ => sees

theorem displayBase_eq_shortBase_iff (packaged : t.package ≠ "")
    (visible : t.wildcard ≠ some .unbounded) :
    displayBase (some scope) t = t.shortBase ↔ scope.seesShort t = true := by
  rw [displayBase_eq_shortBase_iff_imp]
  exact forall_prop_of_true (TypeNode.hasTwoNames_of_package_ne packaged visible)

theorem displayBase_eq_fullBase_iff (packaged : t.package ≠ "")
    (visible : t.wildcard ≠ some .unbounded) :
    displayBase (some scope) t = t.fullBase ↔ ¬ scope.seesShort t = true := by
  rw [displayBase_eq_fullBase_iff_imp]
  exact forall_prop_of_true (TypeNode.hasTwoNames_of_package_ne packaged visible)

/-- An unbounded wildcard is a question mark at every site. -/
theorem displayBase_of_unbounded (hidden : t.wildcard = some .unbounded) :
    displayBase (some scope) t = t.shortBase :=
  displayBase_eq_shortBase_iff_imp.mpr fun two => absurd hidden two.visible

end Visible

end TypeRef

/-! ### Blocked imports -/

namespace CompilationUnit

variable {u : CompilationUnit} {n : TypeRef} {path : String}

/-- **Why an import cannot be registered**: its simple name is that of the unit,
that of a declaration inside the unit, or that of a different registered import. -/
def Blocks (u : CompilationUnit) (path : String) : Prop :=
  simpleName path = u.ownName ∨
    (∃ e, u.decl.Encloses e ∧ e.declaredName = simpleName path) ∨
      ∃ other ∈ u.importPaths, other ≠ path ∧ simpleName other = simpleName path

/-- `u.IsOutside n` holds when the node of `n` needs an import and is not in the
package of the unit. -/
def IsOutside (u : CompilationUnit) (n : TypeRef) : Prop :=
  n.isImportable = true ∧ n.package ≠ u.package

/-- A registered import is not blocked, whenever it was registered. -/
theorem ImportsCoherent.not_blocks (coherent : u.ImportsCoherent)
    (registered : path ∈ u.importPaths) : ¬ u.Blocks path := by
  obtain ⟨t, eligible⟩ := coherent.exists_eligible registered
  rintro (own | ⟨e, enclosed, declares⟩ | ⟨other, found, different, same⟩)
  · exact eligible.notOwn own
  · exact eligible.notNested e enclosed declares
  · exact different (coherent.eq_of_simpleName_eq found registered same)

/-- An import that is not blocked and whose simple name is bound if it is eligible
at all is registered. -/
theorem mem_importPaths_of_not_blocks (asked : n.importPath? = some path)
    (foreign : n.package ≠ u.package) (passed : u.Eligible n path → u.Binds (simpleName path))
    (unblocked : ¬ u.Blocks path) : path ∈ u.importPaths := by
  have eligible : u.Eligible n path :=
    { asked := asked
      foreign := foreign
      notOwn := fun own => unblocked (.inl own)
      notNested := fun e enclosed declares => unblocked (.inr (.inl ⟨e, enclosed, declares⟩)) }
  obtain ⟨other, registered, same⟩ := passed eligible
  by_cases here : other = path
  · rwa [← here]
  · exact absurd (.inr (.inr ⟨other, registered, here, same⟩)) unblocked

/-- Whether the import of a node outside the unit is registered depends on what
blocks it and on nothing else, once the walk has come past the node. -/
theorem seesShort_iff_not_blocks (coherent : u.ImportsCoherent) (outside : u.IsOutside n)
    (asked : n.importPath? = some path)
    (passed : u.Eligible n path → u.Binds (simpleName path)) :
    u.scope.seesShort n.toTypeNode = true ↔ ¬ u.Blocks path := by
  rw [Scope.seesShort_iff]
  constructor
  · rintro (noImport | near | ⟨other, registered, same⟩)
    · rw [outside.1] at noImport
      cases noImport
    · exact absurd near outside.2
    · rw [asked] at same
      cases same
      exact coherent.not_blocks registered
  · intro unblocked
    exact .inr (.inr ⟨path, mem_importPaths_of_not_blocks asked outside.2 passed unblocked, asked⟩)

/-- After everything that the declaration refers to has been imported, every node
of a reference in it has been passed: if its import is eligible, its simple name is
bound. -/
theorem binds_importReferenced {t : TypeRef} (referenced : t ∈ u.decl.referencedTypes)
    (node : n ∈ t.nodes) (eligible : u.Eligible n path) :
    u.importReferenced.Binds (simpleName path) := by
  rw [importReferenced, addImports_eq_walk]
  refine binds_walk_of_eligible ?_ eligible
  rw [TypeRef.nodesAll_eq_flatMap]
  exact List.mem_flatMap.mpr ⟨t, referenced, node⟩

/-- **Qualified exactly when blocked.**  Let a unit be given any requests for
imports and then be asked for the imports of everything that its declaration refers
to.  Every node of a reference in the declaration is written as its base name, its
arguments between angle brackets if it has any, and its brackets.  If the node needs an
import, lies outside the package of the unit and is not hidden by an unbounded wildcard,
its base name is the qualified one exactly when its import is blocked.  In every other
case the base name is the short one. -/
theorem displayBase_importReferenced (d : TypeDecl) (requests : List ImportRequest) :
    let u := ((ofDecl d).requestAll requests).importReferenced
    ∀ t ∈ d.referencedTypes, ∀ n ∈ t.nodes,
      n.display (some u.scope) =
          TypeRef.displayBase (some u.scope) n.toTypeNode ++
            (if n.args.isEmpty then ""
              else "<" ++ ", ".intercalate (n.args.map (TypeRef.display (some u.scope))) ++ ">") ++
            n.brackets ∧
        (n.wildcard ≠ some .unbounded → u.IsOutside n →
          ∃ path, n.importPath? = some path ∧
            (TypeRef.displayBase (some u.scope) n.toTypeNode = n.fullBase ↔ u.Blocks path)) ∧
        (¬ (n.wildcard ≠ some .unbounded ∧ u.IsOutside n ∧
            ∃ path, n.importPath? = some path ∧ u.Blocks path) →
          TypeRef.displayBase (some u.scope) n.toTypeNode = n.shortBase) := by
  intro u t referenced n node
  have coherent : u.ImportsCoherent := by
    -- The last import of everything is one more request.
    have whole := importsCoherent_requestAll d (requests ++ [.declared])
    rwa [requestAll, List.foldl_append] at whole
  have sameDecl : u.decl = ((ofDecl d).requestAll requests).decl := by
    rw [show u = _ from addImports_eq_walk _ _, walk_decl]
  have passed : ∀ path, u.Eligible n path → u.Binds (simpleName path) := by
    intro path eligible
    refine binds_importReferenced ?_ node (eligible.of_decl_eq sameDecl)
    rwa [requestAll_decl]
  refine ⟨TypeRef.display_eq_append (some u.scope) n, fun visible outside => ?_, fun other => ?_⟩
  · obtain ⟨path, asked⟩ := TypeNode.exists_importPath?_iff.mpr outside.1
    have sees := seesShort_iff_not_blocks coherent outside asked (passed path)
    have packaged := TypeNode.package_ne_empty_of_isImportable outside.1
    refine ⟨path, asked, ?_⟩
    rw [TypeRef.displayBase_eq_fullBase_iff packaged visible, sees, not_not]
  · by_cases hidden : n.wildcard = some .unbounded
    · exact TypeRef.displayBase_of_unbounded hidden
    · refine TypeRef.displayBase_of_seesShort ?_
      by_cases outside : u.IsOutside n
      · obtain ⟨path, asked⟩ := TypeNode.exists_importPath?_iff.mpr outside.1
        refine (seesShort_iff_not_blocks coherent outside asked (passed path)).mpr fun blocked => ?_
        exact other ⟨hidden, outside, path, asked, blocked⟩
      · rw [IsOutside, not_and_or, not_not] at outside
        rcases outside with noImport | near
        · exact Scope.seesShort_iff.mpr (.inl (Bool.eq_false_iff.mpr noImport))
        · exact Scope.seesShort_iff.mpr (.inr (.inl near))

/-- The reference `java.util.Map<com.foo.Peer, java.sql.Date>`. -/
def peerDates : TypeRef :=
  ((TypeRef.named "java.util.Map").withArg (.named "com.foo.Peer")).withArg (.named "java.sql.Date")

/-- The class `com.foo.Bar` with a field of the type `java.util.Date` and one of the
type `java.util.Map<com.foo.Peer, java.sql.Date>`. -/
def datesDecl : TypeDecl :=
  { type := .named "com.foo.Bar"
    fields := [{ name := "created", type := .date }, { name := "logins", type := peerDates }] }

/-- Of two classes `Date` the one that is referred to later stays qualified, and a
class in the package of the unit is written short.  Both are arguments of a class that is
imported. -/
theorem displayBase_importReferenced_dates :
    let u := ((ofDecl datesDecl).requestAll []).importReferenced
    let later := TypeRef.named "java.sql.Date"
    let peer := TypeRef.named "com.foo.Peer"
    peerDates ∈ datesDecl.referencedTypes ∧ later ∈ peerDates.nodes ∧ peer ∈ peerDates.nodes ∧
      later.wildcard ≠ some .unbounded ∧ u.IsOutside later ∧ ¬ u.IsOutside peer ∧
      u.Blocks "java.sql.Date" ∧
      later.display (some u.scope) = "java.sql.Date" ∧ peer.display (some u.scope) = "Peer" ∧
      peerDates.display (some u.scope) = "Map<Peer, java.sql.Date>" := by
  intro u later peer
  have referenced : peerDates ∈ datesDecl.referencedTypes := .tail _ (.head _)
  have laterNode : later ∈ peerDates.nodes := .tail _ (.head _)
  have peerNode : peer ∈ peerDates.nodes := .head _
  have visible : (TypeRef.named "java.sql.Date").wildcard ≠ some .unbounded := by decide +kernel
  have outside : ((ofDecl datesDecl).requestAll []).importReferenced.IsOutside
      (.named "java.sql.Date") := by
    rw [IsOutside]
    decide +kernel
  have inside : ¬ ((ofDecl datesDecl).requestAll []).importReferenced.IsOutside
      (.named "com.foo.Peer") := by
    rw [IsOutside]
    decide +kernel
  have asked : (TypeRef.named "java.sql.Date").importPath? = some "java.sql.Date" := by
    decide +kernel
  have blocked : u.Blocks "java.sql.Date" := by
    refine .inr (.inr ⟨"java.util.Date", ?_, ?_, ?_⟩)
    all_goals decide +kernel
  obtain ⟨laterText, qualified, -⟩ :=
    displayBase_importReferenced datesDecl [] peerDates referenced later laterNode
  obtain ⟨peerText, -, short⟩ :=
    displayBase_importReferenced datesDecl [] peerDates referenced peer peerNode
  obtain ⟨wholeText, -, -⟩ :=
    displayBase_importReferenced datesDecl [] peerDates referenced peerDates
      (.tail _ (.tail _ (.head _)))
  obtain ⟨path, same, exactly⟩ := qualified visible outside
  cases asked.symm.trans same
  rw [exactly.mpr blocked] at laterText
  rw [short fun other => inside other.2.1] at peerText
  refine ⟨referenced, laterNode, peerNode, visible, outside, inside, blocked, ?_, ?_, ?_⟩
  · exact laterText.trans (by decide +kernel)
  · exact peerText.trans (by decide +kernel)
  · exact wholeText.trans (by decide +kernel)

end CompilationUnit

end JavaScaffold
