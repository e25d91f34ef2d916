import JavaScaffold.Proofs.Imports.Display
import JavaScaffold.Proofs.TypeRef.Assembled

/-!
# Between the short and the full name

At a site, each node of a reference is written with its short or with its qualified name.
The text of the whole is therefore somewhere between the short name of the reference and
its full name, and this module says when it is the one or the other.

## Main Statements

* `Scope.seesShort_unit_iff` — which nodes a unit sees by their short names
* `TypeRef.shortBase_eq_displayBase_or_lt`, `TypeRef.displayBase_eq_fullBase_or_lt` — the
  name at a site is between the two names of a node
* `TypeRef.display_between` — the text of a reference, without a unit and in any unit

## Design Notes

The nodes that decide are those with two names.  A node without text in front of a dot has
one name only, and so has an unbounded wildcard, whatever name is hidden behind it; the
arguments of such a node count all the same.
-/

namespace JavaScaffold

/-- A unit sees a node by its short name exactly when the node needs no import, is imported,
or is in the package of the unit. -/
theorem Scope.seesShort_unit_iff {u : CompilationUnit} {n : TypeRef} :
    u.scope.seesShort n.toTypeNode = true ↔
      (n.isImportable = true → u.isImported n = true ∨ n.package = u.package) := by
  have registered : u.isImported n = true ↔
      ∃ path ∈ u.scope.imports, n.importPath? = some path := Scope.isImported_iff
  have package : u.scope.package = u.package := rfl
  rw [seesShort_iff, ← registered, package]
  cases n.isImportable with
  | false => simp
  | true => simp [or_comm]

/-- The other nodes need an import, lie outside the package, and are not imported. -/
theorem Scope.not_seesShort_unit_iff {u : CompilationUnit} {n : TypeRef} :
    ¬ u.scope.seesShort n.toTypeNode = true ↔ u.IsOutside n ∧ ¬ u.isImported n = true := by
  rw [seesShort_unit_iff, Classical.not_imp, not_or]
  constructor
  · rintro ⟨importable, missing, foreign⟩
    exact ⟨⟨importable, foreign⟩, missing⟩
  · rintro ⟨⟨importable, foreign⟩, missing⟩
    exact ⟨importable, missing, foreign⟩

namespace TypeRef

/-! ### One node -/

/-- The name at a site is the short one, or longer. -/
theorem shortBase_eq_displayBase_or_lt (scope : Scope) (n : TypeNode) :
    n.shortBase = displayBase (some scope) n ∨
      n.shortBase.length < (displayBase (some scope) n).length := by
  rw [displayBase]
  split
  · exact .inl rfl
  · exact n.shortBase_eq_fullBase_or_lt

/-- The name at a site is the qualified one, or shorter. -/
theorem displayBase_eq_fullBase_or_lt (scope : Scope) (n : TypeNode) :
    displayBase (some scope) n = n.fullBase ∨
      (displayBase (some scope) n).length < n.fullBase.length := by
  rw [displayBase]
  split
  · exact n.shortBase_eq_fullBase_or_lt
  · exact .inl rfl

/-! ### The whole reference -/

/-- **Between the short and the full name.**  Without a unit, a reference is written with
its short name.  A unit writes it with its short name exactly when every node that needs
an import is imported or in the package of the unit, and with its full name exactly when
every node needs an import, lies outside the package and is not imported; nodes that have
one name only do not matter. -/
theorem display_between (t : TypeRef) :
    t.display none = t.shortName ∧
      ∀ u : CompilationUnit,
        (t.display (some u.scope) = t.shortName ↔
          ∀ n ∈ t.nodes, n.HasTwoNames → n.isImportable = true →
            u.isImported n = true ∨ n.package = u.package) ∧
        (t.display (some u.scope) = t.fullName ↔
          ∀ n ∈ t.nodes, n.HasTwoNames → u.IsOutside n ∧ ¬ u.isImported n = true) := by
  refine ⟨?_, fun u => ⟨?_, ?_⟩⟩
  · exact (isAssembled_display none).congr isAssembled_shortName fun n _ => rfl
  · rw [eq_comm, isAssembled_shortName.eq_iff (isAssembled_display (some u.scope))
      (shortBase_eq_displayBase_or_lt u.scope)]
    refine forall₂_congr fun n _ => ?_
    rw [eq_comm, displayBase_eq_shortBase_iff_imp, Scope.seesShort_unit_iff]
  · rw [(isAssembled_display (some u.scope)).eq_iff isAssembled_fullName
      (displayBase_eq_fullBase_or_lt u.scope)]
    refine forall₂_congr fun n _ => ?_
    rw [displayBase_eq_fullBase_iff_imp, Scope.not_seesShort_unit_iff]

/-- The reference `java.util.Map<java.util.Date, ?>`, with a name hidden behind the
wildcard. -/
def hidingMap : TypeRef :=
  ((named "java.util.Map").withArg date).withArg
    { named "java.sql.Date" with wildcard := some .unbounded }

/-- A unit of the class `com.foo.Bar` with the imports of some classes. -/
def importingUnit (paths : List String) : CompilationUnit :=
  { decl := { type := .named "com.foo.Bar" }
    imports := paths.map fun path => ⟨path, .named path⟩ }

/-- The name behind the wildcard needs an import that no unit has, but it is not written. -/
theorem display_between_hiding :
    hidingMap.display none = hidingMap.shortName ∧
      hidingMap.display (some (importingUnit ["java.util.Date", "java.util.Map"]).scope) =
        hidingMap.shortName ∧
      hidingMap.display (some (importingUnit []).scope) = hidingMap.fullName ∧
      hidingMap.shortName = "Map<Date, ?>" ∧
      hidingMap.fullName = "java.util.Map<java.util.Date, ?>" := by
  obtain ⟨alone, units⟩ := display_between hidingMap
  have imported : ∀ n ∈ hidingMap.nodes, n.wildcard ≠ some .unbounded → n.isImportable = true →
      (importingUnit ["java.util.Date", "java.util.Map"]).isImported n = true := by
    decide
  have outside : ∀ n ∈ hidingMap.nodes, n.wildcard ≠ some .unbounded →
      (n.isImportable = true ∧ n.package ≠ (importingUnit []).package) ∧
        ¬ (importingUnit []).isImported n = true := by
    decide
  refine ⟨alone, (units _).1.mpr ?_, (units _).2.mpr ?_, by decide, by decide⟩
  · intro n member two importable
    exact .inl (imported n member two.visible importable)
  · intro n member two
    exact outside n member two.visible

end TypeRef

end JavaScaffold
