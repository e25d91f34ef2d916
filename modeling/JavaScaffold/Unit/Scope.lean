import JavaScaffold.TypeRef.Basic

/-!
# Names at a reference site

Whether a type is written with its short or its qualified name depends on the package of the file
and on the imports of the file.

## Main Definitions

* `Scope` — a package and the imported paths
* `Scope.seesShort` — whether a node needs no qualified name in a scope
* `TypeRef.display` — the text of a reference at a site with a given scope

## Design Notes

Each node of a reference is decided on its own.  Without a scope every node is short.
-/

namespace JavaScaffold

/-- What a file makes visible by short name, apart from the language package. -/
structure Scope where
  package : String
  /-- The paths of the imports. -/
  imports : List String

namespace Scope

/-- Whether the import that a node asks for is there. -/
def isImported (scope : Scope) (t : TypeNode) : Bool :=
  match t.importPath? with
  | some path => scope.imports.contains path
  | none => false

/-- Whether a node needs no qualified name: it is primitive or in no need of an import, or its
package is the one of the file, or it is imported. -/
def seesShort (scope : Scope) (t : TypeNode) : Bool :=
  t.primitive?.isSome || !t.isImportable || t.package == scope.package || scope.isImported t

end Scope

namespace TypeRef

/-- The base name of a node at a site with the given scope. -/
def displayBase (scope : Option Scope) (t : TypeNode) : String :=
  match scope with
  | none => t.shortBase
  | some s => if s.seesShort t then t.shortBase else t.fullBase

mutual

/-- The text of a reference at a site with the given scope. -/
def display (scope : Option Scope) : TypeRef → String
  | ⟨node, args⟩ => assemble (displayBase scope node) (displayAll scope args) node.brackets

/-- The texts of some references at a site with the given scope. -/
def displayAll (scope : Option Scope) : List TypeRef → List String
  | [] => []
  | t :: ts => t.display scope :: displayAll scope ts

end

theorem displayAll_eq_map (scope : Option Scope) (ts : List TypeRef) :
    displayAll scope ts = ts.map (display scope) := by
  induction ts with
  | nil => rfl
  | cons t ts ih => simp [displayAll, ih]

theorem display_eq (scope : Option Scope) (t : TypeRef) :
    t.display scope =
      assemble (displayBase scope t.toTypeNode) (t.args.map (display scope)) t.brackets := by
  cases t
  simp [display, displayAll_eq_map]

end TypeRef

end JavaScaffold
