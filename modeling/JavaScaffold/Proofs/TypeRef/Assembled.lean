import JavaScaffold.Unit.Scope
import Mathlib.Algebra.GroupWithZero.Nat
import Mathlib.Algebra.Order.BigOperators.Group.List
import Mathlib.Algebra.Order.Group.Nat

/-!
# Texts put together from base names

The short name of a reference, its full name and its text at a site are put together in
one way: the base name of a node, the texts of its arguments between angle brackets, and
the brackets behind them.  All that differs is which base names are taken.

## Main Definitions

* `TypeRef.IsAssembled` — a way of writing references that is given by its base names
* `TypeRef.baseLength` — the length of all base names in a reference

## Main Statements

* `TypeRef.IsAssembled.congr` — the same base names give the same text
* `TypeRef.IsAssembled.length_add` — the rest of a text does not depend on the base names
* `TypeRef.IsAssembled.eq_iff` — one text only from the same base names, where names that
  differ have different lengths in a known order

## Design Notes

A text does not say where the base names in it end, so two texts are not compared part by
part.  Their lengths are enough: whenever one of two ways never takes the longer name of
a node, a single longer name makes the whole text of the other longer.
-/

namespace JavaScaffold.TypeRef

variable {text text' : TypeRef → String} {base base' : TypeNode → String} {t : TypeRef}

/-- **A way of writing references** that takes the base name of each node from `base`. -/
def IsAssembled (text : TypeRef → String) (base : TypeNode → String) : Prop :=
  ∀ t : TypeRef, text t = assemble (base t.toTypeNode) (t.args.map text) t.brackets

theorem isAssembled_shortName : IsAssembled shortName TypeNode.shortBase :=
  shortName_eq

theorem isAssembled_fullName : IsAssembled fullName TypeNode.fullBase :=
  fullName_eq

theorem isAssembled_display (scope : Option Scope) :
    IsAssembled (display scope) (displayBase scope) :=
  display_eq scope

/-- **The same base names** at all nodes give the same text. -/
theorem IsAssembled.congr (made : IsAssembled text base) (made' : IsAssembled text' base')
    (same : ∀ n ∈ t.nodes, base n.toTypeNode = base' n.toTypeNode) : text t = text' t := by
  induction t using inductionOn with
  | node t ih =>
      rw [nodes_eq, List.forall_mem_append, List.forall_mem_flatMap,
        List.forall_mem_singleton] at same
      obtain ⟨inArgs, here⟩ := same
      have args : t.args.map text = t.args.map text' :=
        List.map_congr_left fun a member => ih a member (inArgs a member)
      rw [made t, made' t, here, args]

/-! ### Lengths -/

/-- Every text of a list comes with two more characters, the last one apart. -/
theorem length_intercalate_comma {texts : List String} (some : texts ≠ []) :
    (", ".intercalate texts).length + 2 = (texts.map String.length).sum + 2 * texts.length := by
  induction texts with
  | nil => exact absurd rfl some
  | cons first texts ih =>
      cases texts with
      | nil => simp
      | cons next texts =>
          have later := ih (List.cons_ne_nil next texts)
          rw [String.intercalate_cons_cons, String.length_append, String.length_append,
            show ", ".length = 2 from rfl, List.map_cons, List.sum_cons, List.length_cons]
          omega

/-- The angle brackets take the place of the comma that the last argument does not have. -/
theorem length_assemble (base : String) (args : List String) (brackets : String) :
    (assemble base args brackets).length =
      base.length + (args.map String.length).sum + 2 * args.length + brackets.length := by
  rw [assemble]
  split
  · next none =>
      rw [List.isEmpty_iff] at none
      simp [none]
  · next some =>
      rw [List.isEmpty_iff] at some
      have inside := length_intercalate_comma some
      simp only [String.length_append, show "<".length = 1 from rfl, show ">".length = 1 from rfl]
      omega

/-- The length of all base names in a reference. -/
def baseLength (base : TypeNode → String) (t : TypeRef) : Nat :=
  (t.nodes.map fun n => (base n.toTypeNode).length).sum

theorem baseLength_eq (base : TypeNode → String) (t : TypeRef) :
    baseLength base t = (t.args.map (baseLength base)).sum + (base t.toTypeNode).length := by
  rw [baseLength, nodes_eq, List.map_append, List.sum_append, List.map_flatMap, List.flatMap_def,
    List.sum_flatten, List.map_map, List.map_singleton, List.sum_singleton]
  rfl

/-- **The rest of a text**, which is what it has besides base names, does not depend on these
names. -/
theorem IsAssembled.length_add (made : IsAssembled text base) (made' : IsAssembled text' base')
    (t : TypeRef) :
    (text t).length + baseLength base' t = (text' t).length + baseLength base t := by
  induction t using inductionOn with
  | node t ih =>
      have args : (t.args.map fun a => (text a).length).sum + (t.args.map (baseLength base')).sum =
          (t.args.map fun a => (text' a).length).sum + (t.args.map (baseLength base)).sum := by
        rw [← List.sum_map_add, ← List.sum_map_add, List.map_congr_left ih]
      rw [made t, made' t, length_assemble, length_assemble, baseLength_eq base, baseLength_eq base',
        List.map_map, List.map_map, List.length_map, List.length_map]
      simp only [Function.comp_def]
      omega

/-- **One text only from the same base names**, when a base name of the first way is the
shorter one wherever the two ways differ. -/
theorem IsAssembled.eq_iff (made : IsAssembled text base) (made' : IsAssembled text' base')
    (shorter : ∀ n, base n = base' n ∨ (base n).length < (base' n).length) (t : TypeRef) :
    text t = text' t ↔ ∀ n ∈ t.nodes, base n.toTypeNode = base' n.toTypeNode := by
  refine ⟨fun same n member => ?_, made.congr made'⟩
  by_contra different
  have less : baseLength base t < baseLength base' t := by
    refine List.sum_lt_sum _ _ (fun m _ => ?_) ⟨n, member, ?_⟩
    · rcases shorter m.toTypeNode with equal | less
      · exact Nat.le_of_eq (congrArg String.length equal)
      · exact Nat.le_of_lt less
    · exact (shorter n.toTypeNode).resolve_left different
  have lengths := made.length_add made' t
  rw [same] at lengths
  omega

end JavaScaffold.TypeRef
