import JavaScaffold.Primitive
import JavaScaffold.Text.Blank
import JavaScaffold.Text.Split

/-!
# Type references

A type reference is a tree.  Each node has a dotted name, possibly a wildcard in front of it, type
arguments below it, and array brackets.

## Main Definitions

* `Wildcard` — the three forms of a wildcard
* `TypeNode` — one node, apart from its arguments
* `TypeRef` — the tree
* `TypeNode.package`, `TypeNode.qualifiedName`, `TypeNode.primitive?` — what the name of a node says
* `TypeNode.importPath?` — the import a node asks for
* `TypeRef.fullName`, `TypeRef.shortName` — the two printed forms of a reference
* `TypeRef.nodes`, `TypeRef.importPaths` — all nodes of a reference, and all its imports
* `TypeRef.nested` — a reference to a class declared inside another one

## Design Notes

A node keeps the text before the last dot of its name and the text after it.  Package, qualified
name, primitive kind and the need for an import follow from these two, so they are functions and
cannot disagree.  The brackets of a plain array (`byte[]`) are part of the name; those after type
arguments (`List<String>[]`) are kept apart.  A reference to a nested class keeps the dots between
the classes in `name`, so its package is the package of the outermost class.
-/

namespace JavaScaffold

/-- The form of a wildcard. -/
inductive Wildcard
  /-- Written `?`. -/
  | unbounded
  /-- Written `? extends Bound`. -/
  | upper
  /-- Written `? super Bound`. -/
  | lower
  deriving Repr, DecidableEq

/-- One node of a type reference, apart from its arguments. -/
structure TypeNode where
  /-- The text before the last dot of the written name, if there is a dot. -/
  qualifier : Option String
  /-- The rest of the written name, with the brackets of a plain array. -/
  name : String
  /-- The text that follows the type arguments, when it starts with a bracket. -/
  brackets : String := ""
  /-- Whether the reference was written with a bracket at its end. -/
  isArray : Bool := false
  /-- The wildcard in front of the name. -/
  wildcard : Option Wildcard := none
  deriving Repr, DecidableEq

/-- A reference to a type. -/
structure TypeRef extends TypeNode where
  /-- The type arguments. -/
  args : List TypeRef := []
  deriving Repr

/-! ### Nodes -/

namespace TypeNode

/-- The package whose types need no import. -/
def languagePackage : String := "java.lang"

/-- The node of a name. -/
def ofName (name : List Char) : TypeNode :=
  match Text.splitLast '.' (Text.trim name) with
  | some (front, back) => { qualifier := some (String.ofList front), name := String.ofList back }
  | none => { qualifier := none, name := String.ofList (Text.trim name) }

/-- The package of a node; empty when the name has no dot. -/
def package (t : TypeNode) : String :=
  t.qualifier.getD ""

/-- The whole dotted name of a node, without the wildcard. -/
def qualifiedName (t : TypeNode) : String :=
  match t.qualifier with
  | some front => front ++ "." ++ t.name
  | none => t.name

/-- The primitive type that a node names. -/
def primitive? (t : TypeNode) : Option Primitive :=
  match t.qualifier with
  | some _ => none
  | none => Primitive.ofKeyword? t.name

/-- Whether a node is visible only by import or by its full name: it has a package, and not the one
that every file sees. -/
def isImportable (t : TypeNode) : Bool :=
  t.package != "" && t.package != languagePackage

/-- Whether a node is `? extends Bound` or `? super Bound`. -/
def isBounded (t : TypeNode) : Bool :=
  match t.wildcard with
  | some .upper | some .lower => true
  | some .unbounded | none => false

/-- The text `name` behind the wildcard of `t`.  An unbounded wildcard hides the name. -/
def behindWildcard (t : TypeNode) (name : String) : String :=
  match t.wildcard with
  | none => name
  | some .unbounded => "?"
  | some .upper => "? extends " ++ name
  | some .lower => "? super " ++ name

/-- The short name of a node with its wildcard. -/
def shortBase (t : TypeNode) : String :=
  t.behindWildcard t.name

/-- The qualified name of a node with its wildcard. -/
def fullBase (t : TypeNode) : String :=
  t.behindWildcard t.qualifiedName

/-- The name under which a class is declared: of nested classes, that of the innermost one. -/
def innerName (t : TypeNode) : String :=
  Text.afterLast '.' t.name

/-- The text `name` without array brackets: what stands before the first `[`, without blanks at its
end. -/
def withoutBrackets (name : String) : String :=
  match Text.splitFirst '[' name.toList with
  | some (front, _) => String.ofList (Text.trimEnd front)
  | none => name

/-- The dotted name that an import of this node names.  A nested class is imported through the
outermost class around it. -/
def importPath? (t : TypeNode) : Option String :=
  if !t.isImportable then none
  else if '.' ∈ t.name.toList then
    some (t.package ++ "." ++ withoutBrackets (Text.beforeFirst '.' t.name))
  else some (withoutBrackets t.qualifiedName)

end TypeNode

namespace TypeRef

/-- The reference to the class called `name`. -/
def named (name : String) : TypeRef :=
  { TypeNode.ofName name.toList with args := [] }

/-- The reference to a class `name` declared inside `outer`. -/
def nested (outer : TypeRef) (name : String) : TypeRef :=
  { qualifier := outer.qualifier, name := outer.name ++ "." ++ name }

/-- The reference `t` with one more type argument. -/
def withArg (t arg : TypeRef) : TypeRef :=
  { t with args := t.args ++ [arg] }

/-! ### Printed forms -/

/-- A base name followed by the texts of its arguments and by brackets. -/
def assemble (base : String) (args : List String) (brackets : String) : String :=
  if args.isEmpty then base ++ brackets
  else base ++ "<" ++ ", ".intercalate args ++ ">" ++ brackets

mutual

/-- The reference with qualified names at every node. -/
def fullName : TypeRef → String
  | ⟨node, args⟩ => assemble node.fullBase (fullNames args) node.brackets

/-- The full names of a list of references. -/
def fullNames : List TypeRef → List String
  | [] => []
  | t :: ts => t.fullName :: fullNames ts

end

mutual

/-- The reference with short names at every node. -/
def shortName : TypeRef → String
  | ⟨node, args⟩ => assemble node.shortBase (shortNames args) node.brackets

/-- The short names of a list of references. -/
def shortNames : List TypeRef → List String
  | [] => []
  | t :: ts => t.shortName :: shortNames ts

end

theorem fullNames_eq_map (ts : List TypeRef) : fullNames ts = ts.map fullName := by
  induction ts with
  | nil => rfl
  | cons t ts ih => simp [fullNames, ih]

theorem shortNames_eq_map (ts : List TypeRef) : shortNames ts = ts.map shortName := by
  induction ts with
  | nil => rfl
  | cons t ts ih => simp [shortNames, ih]

theorem fullName_eq (t : TypeRef) :
    t.fullName = assemble t.fullBase (t.args.map fullName) t.brackets := by
  cases t
  simp [fullName, fullNames_eq_map]

theorem shortName_eq (t : TypeRef) :
    t.shortName = assemble t.shortBase (t.args.map shortName) t.brackets := by
  cases t
  simp [shortName, shortNames_eq_map]

/-- **Induction on a reference**: a property that passes from the arguments to the
node above them holds of every reference. -/
theorem inductionOn {motive : TypeRef → Prop} (t : TypeRef)
    (node : ∀ t : TypeRef, (∀ a ∈ t.args, motive a) → motive t) : motive t := by
  refine node t fun a member => ?_
  exact inductionOn a node
termination_by sizeOf t
decreasing_by
  have smaller := List.sizeOf_lt_of_mem member
  obtain ⟨n, args⟩ := t
  simp only [TypeRef.mk.sizeOf_spec]
  dsimp only at smaller
  omega

/-! ### Nodes and imports of a whole reference -/

mutual

/-- The imports of a reference and of its arguments, in reading order; repeated as often as asked
for. -/
def importPaths : TypeRef → List String
  | ⟨node, args⟩ => node.importPath?.toList ++ importPathsAll args

/-- The imports of a list of references. -/
def importPathsAll : List TypeRef → List String
  | [] => []
  | t :: ts => t.importPaths ++ importPathsAll ts

end

mutual

/-- The nodes of a reference, the arguments of a node before the node itself. -/
def nodes : TypeRef → List TypeRef
  | ⟨node, args⟩ => nodesAll args ++ [⟨node, args⟩]

/-- The nodes of a list of references. -/
def nodesAll : List TypeRef → List TypeRef
  | [] => []
  | t :: ts => t.nodes ++ nodesAll ts

end

theorem importPathsAll_eq_flatMap (ts : List TypeRef) :
    importPathsAll ts = ts.flatMap importPaths := by
  induction ts with
  | nil => rfl
  | cons t ts ih => simp [importPathsAll, ih]

theorem nodesAll_eq_flatMap (ts : List TypeRef) : nodesAll ts = ts.flatMap nodes := by
  induction ts with
  | nil => rfl
  | cons t ts ih => simp [nodesAll, ih]

theorem nodes_eq (t : TypeRef) : t.nodes = t.args.flatMap nodes ++ [t] := by
  cases t
  simp [nodes, nodesAll_eq_flatMap]

theorem importPaths_eq (t : TypeRef) :
    t.importPaths = t.importPath?.toList ++ t.args.flatMap importPaths := by
  cases t
  simp [importPaths, importPathsAll_eq_flatMap]

/-! ### Order and equality

Two references count as equal, and are ordered, by their full names, character by character. -/

/-- Whether two references have the same full name. -/
def sameAs (s t : TypeRef) : Bool :=
  s.fullName == t.fullName

/-- The order of two references. -/
def order (s t : TypeRef) : Ordering :=
  compare s.fullName t.fullName

/-- The reference `t` at the end of `ts`, unless an equal reference is in the list. -/
def insertNew (ts : List TypeRef) (t : TypeRef) : List TypeRef :=
  if ts.any (·.sameAs t) then ts else ts ++ [t]

/-- The references `ts` without the references equal to an earlier one. -/
def distinct (ts : List TypeRef) : List TypeRef :=
  ts.foldl insertNew []

/-- The references `ts` in ascending order; equal references keep their order. -/
def sorted (ts : List TypeRef) : List TypeRef :=
  ts.mergeSort fun s t => (s.order t).isLE

end TypeRef

end JavaScaffold
