import JavaScaffold.Decl.Basic
import JavaScaffold.Render.Member

/-!
# Writing declarations

A declaration is its comment, its annotations, a header line, its items one level deeper with a
blank line between them, and a closing brace.

## Main Definitions

* `Outline.header` — the header line
* `Outline.writeConstants` — the constants of an enum
* `TypeDecl.write` — the whole declaration
* `TypeDecl.writeKind` — the nested declarations of one kind

## Design Notes

Every item is written with a blank line after it, and the last of these is taken away before the
closing brace.  Nested declarations are written by kind: classes, interfaces, enums, records.
-/

namespace JavaScaffold

namespace Outline

/-- The header line of a declaration.  Only classes are written as abstract or with a super class,
and only classes and records as final. -/
def header (site : Site) (d : Outline) : String :=
  d.visibility.keyword ++
    keywords [(d.isAbstract && d.kind == .ofClass, "abstract "), (d.isStatic, "static "),
      (d.isFinal && (d.kind == .ofClass || d.kind == .ofRecord), "final ")] ++
    d.kind.keyword ++ " " ++ d.declaredName ++ TypeParam.clause site d.typeParams ++
    (if d.kind == .ofRecord then Param.clause site d.components else "") ++
    (match d.kind, d.superClass with
      | .ofClass, some superClass => " extends " ++ superClass.display site.scope
      | _, _ => "") ++
    (if d.interfaces.isEmpty then ""
      else (if d.kind == .ofInterface then " extends " else " implements ") ++
        ", ".intercalate (site.typeNames d.interfaces)) ++
    " \x7b"

/-- Writes the constants of an enum with commas after all but the last, then a blank line.  An enum
without constants has a lone semicolon in their place when it has other items. -/
def writeConstants (constants : List String) (hasItems : Bool) (b : CodeBuilder) : CodeBuilder :=
  match constants.getLast? with
  | some last => ((b.lines (constants.dropLast.map (· ++ ","))).line (last ++ ";")).blank
  | none => if hasItems then (b.line ";").blank else b

/-- Writes each of some items with a blank line after it. -/
def writeEach {α : Type} (write : α → CodeBuilder → CodeBuilder) (items : List α)
    (b : CodeBuilder) : CodeBuilder :=
  items.foldl (fun b item => (write item b).blank) b

/-- Writes the members of a declaration, each with a blank line after it. -/
def writeMembers (site : Site) (d : Outline) (b : CodeBuilder) : CodeBuilder :=
  writeEach (Method.write site) d.methods
    (writeEach InitBlock.write d.initBlocks (writeEach (Field.write site) d.fields b))

/-- Whether a declaration has members. -/
def hasMembers (d : Outline) : Bool :=
  !(d.fields.isEmpty && d.initBlocks.isEmpty && d.methods.isEmpty)

/-- Writes a declaration up to its members.  The level is left where the items stand. -/
def writeOpening (site : Site) (d : Outline) (hasNested : Bool) (b : CodeBuilder) : CodeBuilder :=
  let opened := (((b.lines d.doc.lines).lines d.annotations).line (d.header site)).deeper
  let started :=
    if d.kind == .ofEnum then writeConstants d.constants (d.hasMembers || hasNested) opened
    else opened
  d.writeMembers { site with inInterface := d.kind == .ofInterface } started

end Outline

/-- Ends a declaration after its items. -/
def CodeBuilder.closeDecl (b : CodeBuilder) : CodeBuilder :=
  b.dropBlank.shallower.line "\x7d"

namespace TypeDecl

mutual

/-- Writes a declaration. -/
def write (site : Site) : TypeDecl → CodeBuilder → CodeBuilder
  | ⟨outline, nested⟩, b =>
    let inner : Site := { site with inInterface := false }
    (writeKind inner .ofRecord nested
      (writeKind inner .ofEnum nested
        (writeKind inner .ofInterface nested
          (writeKind inner .ofClass nested
            (outline.writeOpening site (!nested.isEmpty) b))))).closeDecl

/-- Writes the declarations of one kind among some nested ones, each with a blank line after it. -/
def writeKind (site : Site) (kind : DeclKind) : List TypeDecl → CodeBuilder → CodeBuilder
  | [], b => b
  | d :: ds, b => writeKind site kind ds (if d.kind == kind then (write site d b).blank else b)

end

end TypeDecl

end JavaScaffold
