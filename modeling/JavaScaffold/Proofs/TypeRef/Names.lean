import JavaScaffold.Proofs.Text.Split
import JavaScaffold.TypeRef.Basic

/-!
# The names of a node

A node of a type reference has a short name, a qualified name and, when it needs
one, an import.  This module relates the three: the qualified name is the package
and the short name, and the import is the package and the identifier that the short
name starts with.

## Main Definitions

* `TypeNode.HasTwoNames` — a node whose two printed names differ
* `TypeNode.headName` — the identifier that a short name starts with

## Main Statements

* `TypeNode.exists_importPath?_iff` — which nodes ask for an import
* `TypeNode.shortBase_eq_fullBase_or_lt` — the short name of a node is the shorter one
* `TypeNode.fullBase_ne_shortBase` — when the two printed names differ
* `TypeNode.importPath?_eq_headName` — the import of a node, from its package and
  its head name
-/

namespace JavaScaffold

namespace TypeNode

variable {t : TypeNode} {name : String}

/-! ### Package and qualified name -/

theorem package_ne_empty_of_isImportable (importable : t.isImportable = true) :
    t.package ≠ "" := by
  rw [isImportable, Bool.and_eq_true, bne_iff_ne] at importable
  exact importable.1

/-- A node with a package has a qualifier, which is that package. -/
theorem qualifier_eq_some_package (packaged : t.package ≠ "") :
    t.qualifier = some t.package := by
  rw [package] at packaged ⊢
  cases qualified : t.qualifier with
  | none =>
      rw [qualified] at packaged
      exact absurd rfl packaged
  | some front => rfl

theorem primitive?_eq_none_of_package_ne (packaged : t.package ≠ "") :
    t.primitive? = none := by
  rw [primitive?, qualifier_eq_some_package packaged]

theorem qualifiedName_eq_of_package_ne (packaged : t.package ≠ "") :
    t.qualifiedName = t.package ++ "." ++ t.name := by
  rw [qualifiedName, qualifier_eq_some_package packaged]

/-- The qualified name of a node with a qualifier, character by character. -/
theorem toList_qualifiedName {front : String} (qualified : t.qualifier = some front) :
    t.qualifiedName.toList = front.toList ++ '.' :: t.name.toList := by
  rw [qualifiedName, qualified]
  simp

/-! ### Printed names -/

/-- A wildcard in front of two names hides them or leaves the shorter one shorter. -/
theorem length_behindWildcard_lt (visible : t.wildcard ≠ some .unbounded) {a b : String}
    (less : a.length < b.length) : (t.behindWildcard a).length < (t.behindWildcard b).length := by
  rw [behindWildcard, behindWildcard]
  cases form : t.wildcard with
  | none => exact less
  | some w =>
      cases w with
      | unbounded => exact absurd form visible
      | upper => simpa using less
      | lower => simpa using less

/-- **A node with two names**: there is text in front of the last dot, and no wildcard hides
the name. -/
structure HasTwoNames (t : TypeNode) : Prop where
  qualified : t.qualifier ≠ none
  visible : t.wildcard ≠ some .unbounded

/-- Of two names, the short one is shorter. -/
theorem HasTwoNames.length_lt (two : t.HasTwoNames) : t.shortBase.length < t.fullBase.length := by
  refine length_behindWildcard_lt two.visible ?_
  obtain ⟨front, qualified⟩ := Option.ne_none_iff_exists'.mp two.qualified
  rw [qualifiedName, qualified, String.length_append, String.length_append,
    show ".".length = 1 from rfl]
  omega

theorem fullBase_eq_shortBase_of_unbounded (hidden : t.wildcard = some .unbounded) :
    t.fullBase = t.shortBase := by
  rw [fullBase, shortBase, behindWildcard, behindWildcard, hidden]

/-- Without two names, there is one. -/
theorem fullBase_eq_shortBase (one : ¬ t.HasTwoNames) : t.fullBase = t.shortBase := by
  by_cases hidden : t.wildcard = some .unbounded
  · exact fullBase_eq_shortBase_of_unbounded hidden
  · have unqualified : t.qualifier = none := by
      by_contra qualified
      exact one ⟨qualified, hidden⟩
    rw [fullBase, shortBase, qualifiedName, unqualified]

/-- **The short name is the shorter one**, unless there is only one. -/
theorem shortBase_eq_fullBase_or_lt (t : TypeNode) :
    t.shortBase = t.fullBase ∨ t.shortBase.length < t.fullBase.length := by
  by_cases two : t.HasTwoNames
  · exact .inr two.length_lt
  · exact .inl (fullBase_eq_shortBase two).symm

theorem HasTwoNames.fullBase_ne (two : t.HasTwoNames) : t.fullBase ≠ t.shortBase := by
  intro same
  have less := two.length_lt
  rw [same] at less
  exact Nat.lt_irrefl _ less

/-- A node with a package has two names, unless a wildcard hides them. -/
theorem hasTwoNames_of_package_ne (packaged : t.package ≠ "")
    (visible : t.wildcard ≠ some .unbounded) : t.HasTwoNames := by
  refine ⟨?_, visible⟩
  rw [qualifier_eq_some_package packaged]
  exact nofun

/-- The two printed names of a node with a package differ, unless a wildcard hides
both. -/
theorem fullBase_ne_shortBase (packaged : t.package ≠ "")
    (visible : t.wildcard ≠ some .unbounded) : t.fullBase ≠ t.shortBase :=
  (hasTwoNames_of_package_ne packaged visible).fullBase_ne

/-! ### The import of a node -/

/-- A node asks for an import exactly when it needs one. -/
theorem exists_importPath?_iff : (∃ path, t.importPath? = some path) ↔ t.isImportable = true := by
  rw [importPath?]
  cases t.isImportable with
  | false =>
      rw [Bool.not_false, if_pos rfl]
      constructor
      · rintro ⟨path, never⟩
        cases never
      · intro never
        cases never
  | true =>
      rw [Bool.not_true, if_neg Bool.false_ne_true]
      refine ⟨fun _ => rfl, fun _ => ?_⟩
      split
      · exact ⟨_, rfl⟩
      · exact ⟨_, rfl⟩

/-- The identifier that the short name of a node starts with: its first segment,
without array brackets. -/
def headName (t : TypeNode) : String :=
  withoutBrackets (Text.beforeFirst '.' t.name)

/-- Taking brackets away brings no new character in. -/
theorem not_mem_withoutBrackets {c : Char} (absent : c ∉ name.toList) :
    c ∉ (withoutBrackets name).toList := by
  rw [withoutBrackets]
  split
  · next front back found =>
      rw [String.toList_ofList]
      intro member
      refine absent ?_
      rw [(Text.splitFirst_eq_some found).1]
      exact List.mem_append_left _ (Text.trimEnd_subset front member)
  · exact absent

theorem dot_not_mem_headName (t : TypeNode) : '.' ∉ t.headName.toList :=
  not_mem_withoutBrackets (Text.not_mem_beforeFirst '.' t.name)

/-- The brackets of a qualified name are those of its last part, unless there is one
before the dot. -/
theorem withoutBrackets_append {front : String} (plain : '[' ∉ front.toList) (name : String) :
    withoutBrackets (front ++ "." ++ name) = front ++ "." ++ withoutBrackets name := by
  have parts : ∀ s : String, (front ++ "." ++ s).toList = (front.toList ++ ['.']) ++ s.toList := by
    intro s
    rw [String.toList_append, String.toList_append]
    rfl
  have plainDot : '[' ∉ front.toList ++ ['.'] := by
    rw [List.mem_append, not_or]
    exact ⟨plain, by decide⟩
  have visible : Text.isBlank '.' = false := by decide
  rw [withoutBrackets, withoutBrackets, parts, Text.splitFirst_append plainDot]
  cases Text.splitFirst '[' name.toList with
  | none => rfl
  | some pieces =>
      -- The blanks before the bracket are cut off, but never past the dot.
      apply String.toList_injective
      rw [Option.map_some]
      dsimp only
      rw [parts, String.toList_ofList, String.toList_ofList, List.append_assoc, List.append_assoc]
      exact Text.trimEnd_append_cons front.toList visible pieces.1

/-- **The import of a node** is its package and its head name.  A bracket in the
package would cut the import short, which is the only exception. -/
theorem importPath?_eq_headName (importable : t.isImportable = true)
    (plain : '[' ∉ t.package.toList) :
    t.importPath? = some (t.package ++ "." ++ t.headName) := by
  rw [importPath?, importable, if_neg (by decide)]
  split
  · rfl
  · next undotted =>
      rw [qualifiedName_eq_of_package_ne (package_ne_empty_of_isImportable importable),
        withoutBrackets_append plain, headName, Text.beforeFirst_of_not_mem undotted]

end TypeNode

end JavaScaffold
