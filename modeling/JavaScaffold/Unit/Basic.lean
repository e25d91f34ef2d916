import JavaScaffold.Decl.Basic
import JavaScaffold.Unit.Scope

/-!
# Compilation units

A compilation unit is one file: a declaration, the comment lines above it, and its imports.

## Main Definitions

* `Import` — an imported path and the type that asked for it
* `CompilationUnit` — the file
* `CompilationUnit.refuses` — why an import is not added
* `CompilationUnit.addImport` — the imports of one reference
* `CompilationUnit.importReferenced` — the imports of everything that the declaration refers to
* `CompilationUnit.scope` — what the unit makes visible

## Design Notes

The imports are a list in ascending order of their paths.  A reference is imported node by node, its
arguments before the node itself, so of two types that clash the first one in that walk is imported
and the other one stays qualified.  What blocks an import is said in one place, `refuses`.
-/

namespace JavaScaffold

/-- An import. -/
structure Import where
  /-- The dotted name after the keyword. -/
  path : String
  /-- The type that asked for the import, without its arguments. -/
  type : TypeRef

/-- A file with one declaration. -/
structure CompilationUnit where
  decl : TypeDecl
  /-- The lines above everything else. -/
  comments : List String := []
  /-- The imports, in ascending order of their paths. -/
  imports : List Import := []
  /-- The static imports, in ascending order. -/
  staticImports : List String := []

/-- The text `s` put into an ascending list of texts, unless it is there already. -/
def insertText (s : String) : List String → List String
  | [] => [s]
  | t :: ts => if s < t then s :: t :: ts else if s = t then t :: ts else t :: insertText s ts

/-- The import `i` put into a list of imports in ascending order of their paths. -/
def insertImport (i : Import) : List Import → List Import
  | [] => [i]
  | j :: js => if i.path < j.path then i :: j :: js else j :: insertImport i js

namespace CompilationUnit

/-- The unit of a declaration, without comments and imports. -/
def ofDecl (decl : TypeDecl) : CompilationUnit :=
  { decl := decl }

/-- The package of a unit. -/
def package (u : CompilationUnit) : String :=
  u.decl.type.package

/-- The simple name of the class that a unit declares; of nested classes, the outermost one. -/
def ownName (u : CompilationUnit) : String :=
  Text.beforeFirst '.' u.decl.type.name

/-- The unit `u` with one more comment line. -/
def addComment (u : CompilationUnit) (line : String) : CompilationUnit :=
  { u with comments := u.comments ++ [line] }

/-- The unit `u` with one more static import. -/
def addStaticImport (u : CompilationUnit) (path : String) : CompilationUnit :=
  { u with staticImports := insertText path u.staticImports }

/-- The paths of the imports. -/
def importPaths (u : CompilationUnit) : List String :=
  u.imports.map Import.path

/-- What the unit makes visible by short name. -/
def scope (u : CompilationUnit) : Scope :=
  { package := u.package, imports := u.importPaths }

/-- Whether the import that a reference asks for is there. -/
def isImported (u : CompilationUnit) (t : TypeRef) : Bool :=
  u.scope.isImported t.toTypeNode

/-- The simple name that an import makes visible. -/
def simpleName (path : String) : String :=
  Text.afterLast '.' path

/-- Whether the import `path`, asked for by a type of the package `package`, is not added: it is
there already, the type is in the package of the unit, or its simple name is that of the unit, of a
nested declaration, or of another import. -/
def refuses (u : CompilationUnit) (package path : String) : Bool :=
  u.importPaths.contains path || package == u.package || simpleName path == u.ownName ||
    u.decl.nestedNames.contains (simpleName path) ||
    u.importPaths.any fun other => simpleName other == simpleName path

/-- The unit `u` with the import that the node of `t` asks for, or nothing when that node asks for
no import or the import is refused. -/
def importNode? (u : CompilationUnit) (t : TypeRef) : Option CompilationUnit :=
  match t.importPath? with
  | none => none
  | some path =>
    if u.refuses t.package path then none
    else some { u with imports := insertImport ⟨path, { t with args := [] }⟩ u.imports }

/-- The unit and a note of whether it has been extended, after one more node. -/
def importStep (state : CompilationUnit × Bool) (t : TypeRef) : CompilationUnit × Bool :=
  match state.1.importNode? t with
  | some u => (u, true)
  | none => state

/-- The unit `u` with the imports of a reference, and whether there is any new one. -/
def addImport (u : CompilationUnit) (t : TypeRef) : CompilationUnit × Bool :=
  t.nodes.foldl importStep (u, false)

/-- The unit `u` with the imports of some references. -/
def addImports (u : CompilationUnit) (ts : List TypeRef) : CompilationUnit :=
  ts.foldl (fun u t => (u.addImport t).1) u

/-- The unit `u` with the imports of everything that its declaration refers to. -/
def importReferenced (u : CompilationUnit) : CompilationUnit :=
  u.addImports u.decl.referencedTypes

end CompilationUnit

end JavaScaffold
