import JavaScaffold.Decl.Basic

/-!
# Declarations inside declarations

A declaration is a tree through the list of the declarations nested in it.  What
is said about "every nested declaration, at any depth" is said about the relation
`TypeDecl.Encloses`, and the lists that a recursion over the tree collects are
characterized by it.

## Main Definitions

* `TypeDecl.Encloses` — one declaration stands inside another one, at any depth

## Main Statements

* `TypeDecl.inductionOn` — induction on a declaration through its nested ones
* `TypeDecl.mem_nestedNames_iff` — the collected names are the declared names of
  the enclosed declarations
* `TypeDecl.mem_referencedTypes_iff` — the collected types are those of the
  declaration and of the enclosed ones
-/

namespace JavaScaffold

namespace TypeDecl

/-- **Induction on a declaration**: a property that passes from the nested
declarations to the declaration around them holds of every declaration. -/
theorem inductionOn {motive : TypeDecl → Prop} (d : TypeDecl)
    (step : ∀ d : TypeDecl, (∀ e ∈ d.nested, motive e) → motive d) : motive d := by
  refine step d fun e member => ?_
  exact inductionOn e step
termination_by sizeOf d
decreasing_by
  have smaller := List.sizeOf_lt_of_mem member
  cases d
  simp only [TypeDecl.mk.sizeOf_spec] at smaller ⊢
  omega

/-- `d.Encloses e` holds when the declaration `e` stands inside `d`, at any
depth. -/
inductive Encloses : TypeDecl → TypeDecl → Prop
  /-- A declaration nested in `d`. -/
  | nested {d e : TypeDecl} (member : e ∈ d.nested) : Encloses d e
  /-- A declaration inside one that is nested in `d`. -/
  | inside {d e f : TypeDecl} (member : e ∈ d.nested) (deeper : Encloses e f) : Encloses d f

/-- The names that the recursion over the tree collects are exactly the names
that the enclosed declarations introduce. -/
theorem mem_nestedNames_iff {d : TypeDecl} {name : String} :
    name ∈ d.nestedNames ↔ ∃ e, d.Encloses e ∧ e.declaredName = name := by
  constructor
  · intro collected
    -- The names are collected along the tree, so this half follows the tree.
    induction d using inductionOn with
    | step d ih =>
        rw [nestedNames_eq, List.mem_flatMap] at collected
        obtain ⟨e, member, here⟩ := collected
        rcases List.mem_cons.mp here with rfl | below
        · exact ⟨e, .nested member, rfl⟩
        · obtain ⟨f, enclosed, declares⟩ := ih e member below
          exact ⟨f, .inside member enclosed, declares⟩
  · rintro ⟨e, enclosed, rfl⟩
    induction enclosed with
    | nested member =>
        rw [nestedNames_eq, List.mem_flatMap]
        exact ⟨_, member, List.mem_cons_self⟩
    | inside member _ ih =>
        rw [nestedNames_eq, List.mem_flatMap]
        exact ⟨_, member, List.mem_cons_of_mem _ ih⟩

/-- The types that the recursion over the tree collects are those that the
declaration and the enclosed declarations refer to, each on its own. -/
theorem mem_referencedTypes_iff {d : TypeDecl} {t : TypeRef} :
    t ∈ d.referencedTypes ↔
      ∃ e, (e = d ∨ d.Encloses e) ∧ t ∈ e.toOutline.referencedTypes := by
  constructor
  · intro collected
    induction d using inductionOn with
    | step d ih =>
        rw [referencedTypes_eq, List.mem_append, List.mem_flatMap] at collected
        rcases collected with here | ⟨e, member, below⟩
        · exact ⟨d, .inl rfl, here⟩
        · obtain ⟨f, rfl | enclosed, refers⟩ := ih e member below
          · exact ⟨f, .inr (.nested member), refers⟩
          · exact ⟨f, .inr (.inside member enclosed), refers⟩
  · rintro ⟨e, held, refers⟩
    have here : t ∈ e.referencedTypes := by
      rw [referencedTypes_eq]
      exact List.mem_append_left _ refers
    have inside : ∀ {d f : TypeDecl}, f ∈ d.nested → t ∈ f.referencedTypes →
        t ∈ d.referencedTypes := by
      intro d f member below
      rw [referencedTypes_eq]
      exact List.mem_append_right _ (List.mem_flatMap.mpr ⟨f, member, below⟩)
    rcases held with rfl | enclosed
    · exact here
    · induction enclosed with
      | nested member => exact inside member here
      | inside member _ ih => exact inside member (ih refers here)

end TypeDecl

end JavaScaffold
