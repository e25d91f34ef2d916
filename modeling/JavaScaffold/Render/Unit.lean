import JavaScaffold.Render.Decl
import JavaScaffold.Unit.Basic

/-!
# Writing compilation units

## Main Definitions

* `CompilationUnit.importLines` — the import statements
* `CompilationUnit.writeHeader` — all that stands above the declaration
* `CompilationUnit.render` — the text of the file
-/

namespace JavaScaffold

/-- The text that `write` writes from an empty builder. -/
def CodeBuilder.textOf (indent : Indent) (write : CodeBuilder → CodeBuilder) : String :=
  (write { indent := indent }).text

namespace CompilationUnit

/-- The import statements, in order. -/
def importLines (u : CompilationUnit) : List String :=
  u.importPaths.map fun path => "import " ++ path ++ ";"

/-- The static import statements, in order. -/
def staticImportLines (u : CompilationUnit) : List String :=
  u.staticImports.map fun path => "import static " ++ path ++ ";"

/-- Writes lines with a blank line after them, or nothing when there are none. -/
def writeGroup (lines : List String) (b : CodeBuilder) : CodeBuilder :=
  if lines.isEmpty then b else (b.lines lines).blank

/-- Writes all that stands above the declaration: the comments, the package, the static imports and
the imports. -/
def writeHeader (u : CompilationUnit) (b : CodeBuilder) : CodeBuilder :=
  writeGroup u.importLines
    (writeGroup u.staticImportLines
      (writeGroup (if u.package == "" then [] else ["package " ++ u.package ++ ";"])
        (b.lines u.comments)))

/-- Writes a unit. -/
def write (u : CompilationUnit) (b : CodeBuilder) : CodeBuilder :=
  u.decl.write { scope := some u.scope } (u.writeHeader b)

/-- The text of the file of a unit. -/
def render (u : CompilationUnit) (indent : Indent) : String :=
  CodeBuilder.textOf indent u.write

end CompilationUnit

end JavaScaffold
