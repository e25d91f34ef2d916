import JavaScaffold.Proofs.Layout.Lines
import JavaScaffold.Proofs.Nesting
import JavaScaffold.Proofs.Render.Signature
import JavaScaffold.Render.Decl

/-!
# The layout of a declaration

A declaration is a list of lines: its comment, its annotations and its header, then its
items one level deeper with a blank line between any two of them, and a closing brace.  A
nested declaration is one of these items, so the layout follows the tree of declarations.
Writing a declaration puts its lines behind what has been written, and does nothing else.

## Main Definitions

* `Field.lines`, `InitBlock.lines`, `Method.lines` — the lines of a member
* `Outline.items` — the items of a declaration in front of its nested declarations
* `TypeDecl.inOrder` — nested declarations in the order in which they are written
* `TypeDecl.lines` — the lines of a declaration

## Main Statements

* `Field.write_eq_append`, `InitBlock.write_eq_append`, `Method.write_eq_append` — what
  writing a member does
* `TypeDecl.write_layout` — what writing a declaration does

## Design Notes

Items are written with a blank line behind each of them, and the last blank line is taken
away from the end of the whole text.  Behind an item this is the blank line of that item.
Without items the text ends in the header, which is left alone because it does not end in a
line feed of its own.  The texts of the members may be empty or have line feeds in them.
-/

namespace JavaScaffold

/-! ### Members -/

/-- The lines of a field: its comment, its annotations and the field itself. -/
def Field.lines (site : Site) (level : Nat) (f : Field) : List CodeLine :=
  CodeLine.block level (f.doc.lines ++ f.annotations ++ [f.text site])

/-- The lines of an initializer block: its comment, its first line and its body. -/
def InitBlock.lines (level : Nat) (i : InitBlock) : List CodeLine :=
  CodeLine.block level
      (i.doc.lines ++ [if i.isStatic then "static \x7b" else "\x7b"]) ++
    CodeLine.body level 1 i.body

/-- The lines of a method: its comment, its annotations, its first line, and its body if it
has one. -/
def Method.lines (site : Site) (level : Nat) (m : Method) : List CodeLine :=
  CodeLine.block level (m.doc.lines ++ m.annotations ++ [m.firstLine site]) ++
    if m.isBodyless then [] else CodeLine.body level 1 m.body

theorem Field.write_eq_append (site : Site) (f : Field) (b : CodeBuilder) :
    f.write site b = b.append (f.lines site b.level) := by
  simp [write, lines, CodeBuilder.lines_eq_append, CodeBuilder.line_eq_append, CodeLine.block]

theorem InitBlock.write_eq_append (i : InitBlock) (b : CodeBuilder) :
    i.write b = b.append (i.lines b.level) := by
  simp [write, lines, CodeBuilder.body, CodeBuilder.bodyFrom_eq_append,
    CodeBuilder.lines_eq_append, CodeBuilder.line_eq_append, CodeLine.block]

theorem Method.write_eq_append (site : Site) (m : Method) (b : CodeBuilder) :
    m.write site b = b.append (m.lines site b.level) := by
  rw [write_eq, lines]
  split <;> simp [CodeBuilder.body, CodeBuilder.bodyFrom_eq_append, CodeBuilder.lines_eq_append,
    CodeBuilder.line_eq_append, CodeLine.block]

/-! ### Items -/

namespace Outline

variable {site : Site} {d : Outline} {level : Nat} {hasNested : Bool}

/-- The constants of an enum as one item.  They have commas between them and a semicolon
behind the last one; an enum without constants has a lone semicolon if it has anything
else. -/
def constantItems (level : Nat) (hasNested : Bool) (d : Outline) : List (List CodeLine) :=
  if d.kind = .ofEnum then
    match d.constants.getLast? with
    | some last => [CodeLine.block level (d.constants.dropLast.map (· ++ ",") ++ [last ++ ";"])]
    | none =>
      if d.fields.isEmpty && d.initBlocks.isEmpty && d.methods.isEmpty && !hasNested then []
      else [CodeLine.block level [";"]]
  else []

/-- The items of a declaration in front of its nested declarations. -/
def items (site : Site) (level : Nat) (hasNested : Bool) (d : Outline) : List (List CodeLine) :=
  let members : Site := ⟨site.scope, d.kind == .ofInterface⟩
  d.constantItems level hasNested ++ d.fields.map (Field.lines members level) ++
    d.initBlocks.map (InitBlock.lines level) ++ d.methods.map (Method.lines members level)

/-- The lines of a declaration around its items. -/
def frame (site : Site) (level : Nat) (items : List (List CodeLine)) (d : Outline) :
    List CodeLine :=
  CodeLine.block level (d.doc.lines ++ d.annotations ++ [d.header site]) ++
    [CodeLine.blank].intercalate items ++ [⟨level, "\x7d"⟩]

theorem exists_header_eq (site : Site) (d : Outline) :
    ∃ front, d.header site = front ++ "\x7b" := by
  have ends (front : String) : front ++ " \x7b" = (front ++ " ") ++ "\x7b" := by
    rw [String.append_assoc]
    rfl
  exact ⟨_, ends _⟩

theorem isClosedLine_header (site : Site) (d : Outline) :
    CodeBuilder.IsClosedLine (d.header site) := by
  obtain ⟨front, ends⟩ := d.exists_header_eq site
  exact ⟨'\x7b', by simp [ends], by decide⟩

/-! ### Writing items -/

/-- Items that are written as `lines` says are written with a blank line behind each. -/
theorem writeEach_eq_append {α : Type} {write : α → CodeBuilder → CodeBuilder}
    {lines : Nat → α → List CodeLine} (step : ∀ b a, write a b = b.append (lines b.level a))
    (as : List α) (b : CodeBuilder) :
    writeEach write as b =
      b.append ((as.map (lines b.level)).flatMap fun item => item ++ [CodeLine.blank]) := by
  unfold writeEach
  induction as generalizing b with
  | nil => exact b.append_nil.symm
  | cons a as ih =>
      rw [List.foldl_cons, ih, step, CodeBuilder.blank_eq_append, CodeBuilder.append_append,
        CodeBuilder.append_append]
      simp

theorem writeConstants_eq_append (d : Outline) (isEnum : d.kind = .ofEnum) (hasNested : Bool)
    (b : CodeBuilder) :
    writeConstants d.constants (d.hasMembers || hasNested) b =
      b.append ((d.constantItems b.level hasNested).flatMap fun item =>
        item ++ [CodeLine.blank]) := by
  rw [writeConstants, constantItems, if_pos isEnum]
  cases d.constants.getLast? with
  | some last =>
      simp [CodeBuilder.lines_eq_append, CodeBuilder.line_eq_append, CodeBuilder.blank_eq_append,
        CodeLine.block]
  | none =>
      have noItems : (d.fields.isEmpty && d.initBlocks.isEmpty && d.methods.isEmpty &&
          !hasNested) = !(d.hasMembers || hasNested) := by
        rw [hasMembers, Bool.not_or, Bool.not_not]
      dsimp only
      rw [noItems]
      cases d.hasMembers || hasNested with
      | true => simp [CodeBuilder.line_eq_append, CodeBuilder.blank_eq_append, CodeLine.block]
      | false => exact b.append_nil.symm

/-- **A declaration up to its nested declarations**: the lines above the items, and one
level deeper the items, each with a blank line behind it. -/
theorem writeOpening_eq_append (site : Site) (d : Outline) (hasNested : Bool) (b : CodeBuilder) :
    d.writeOpening site hasNested b =
      ((b.append (CodeLine.block b.level
        (d.doc.lines ++ d.annotations ++ [d.header site]))).deeper).append
        ((d.items site (b.level + 1) hasNested).flatMap fun item => item ++ [CodeLine.blank]) := by
  have opened : ((b.lines d.doc.lines).lines d.annotations).line (d.header site) =
      b.append (CodeLine.block b.level (d.doc.lines ++ d.annotations ++ [d.header site])) := by
    simp [CodeBuilder.lines_eq_append, CodeBuilder.line_eq_append, CodeLine.block]
  have started : ∀ c : CodeBuilder,
      (if d.kind == .ofEnum then writeConstants d.constants (d.hasMembers || hasNested) c else c) =
        c.append ((d.constantItems c.level hasNested).flatMap fun item =>
          item ++ [CodeLine.blank]) := by
    intro c
    by_cases isEnum : d.kind = .ofEnum
    · rw [if_pos (beq_iff_eq.mpr isEnum), writeConstants_eq_append d isEnum]
    · rw [if_neg (by simpa using isEnum), constantItems, if_neg isEnum]
      exact c.append_nil.symm
  unfold writeOpening writeMembers
  dsimp only
  rw [opened, started,
    writeEach_eq_append fun b f => f.write_eq_append _ b,
    writeEach_eq_append fun b i => i.write_eq_append b,
    writeEach_eq_append fun b m => m.write_eq_append _ b]
  simp only [CodeBuilder.append_append, CodeBuilder.level_append, items, List.flatMap_append,
    List.append_assoc]
  rfl

/-- **The last blank line** is that of the last item.  Behind a header alone there is none. -/
theorem closeDecl_eq_append (site : Site) (d : Outline) (items : List (List CodeLine))
    (b : CodeBuilder) :
    ((b.append (CodeLine.block b.level
        (d.doc.lines ++ d.annotations ++ [d.header site]))).deeper.append
        (items.flatMap fun item => item ++ [CodeLine.blank])).closeDecl =
      b.append (d.frame site b.level items) := by
  have headed : CodeLine.block b.level (d.doc.lines ++ d.annotations ++ [d.header site]) =
      CodeLine.block b.level (d.doc.lines ++ d.annotations) ++ [⟨b.level, d.header site⟩] :=
    CodeLine.block_append _ _ _
  rw [CodeBuilder.closeDecl, CodeBuilder.deeper_append, CodeBuilder.dropBlank_deeper,
    CodeBuilder.shallower_deeper, CodeBuilder.append_append, frame, headed,
    b.dropBlank_append_groups _ _ (d.isClosedLine_header site), CodeBuilder.line_eq_append,
    CodeBuilder.append_append]
  rfl

end Outline

/-! ### Declarations -/

namespace TypeDecl

/-- **The order of nested declarations**: classes, interfaces, enums and records, those of
each kind in their own order. -/
def inOrder (ds : List TypeDecl) : List TypeDecl :=
  [.ofClass, .ofInterface, .ofEnum, .ofRecord].flatMap fun kind => ds.filter (·.kind == kind)

mutual

/-- **The lines of a declaration** at a level. -/
def lines (site : Site) (level : Nat) : TypeDecl → List CodeLine
  | ⟨outline, nested⟩ =>
    let inner : Site := ⟨site.scope, false⟩
    outline.frame site level (outline.items site (level + 1) (!nested.isEmpty) ++
      (linesOfKind inner (level + 1) .ofClass nested ++
        linesOfKind inner (level + 1) .ofInterface nested ++
        linesOfKind inner (level + 1) .ofEnum nested ++
        linesOfKind inner (level + 1) .ofRecord nested))

/-- The declarations of one kind among some nested ones, each as one item. -/
def linesOfKind (site : Site) (level : Nat) (kind : DeclKind) :
    List TypeDecl → List (List CodeLine)
  | [] => []
  | d :: ds =>
    if d.kind == kind then d.lines site level :: linesOfKind site level kind ds
    else linesOfKind site level kind ds

end

theorem linesOfKind_eq_map (site : Site) (level : Nat) (kind : DeclKind) (ds : List TypeDecl) :
    linesOfKind site level kind ds = (ds.filter (·.kind == kind)).map (lines site level) := by
  induction ds with
  | nil => rw [linesOfKind, List.filter_nil, List.map_nil]
  | cons d ds ih =>
      rw [linesOfKind, List.filter_cons]
      split
      · rw [ih, List.map_cons]
      · exact ih

/-- **The lines of a declaration**, part by part. -/
theorem lines_eq (site : Site) (level : Nat) (d : TypeDecl) :
    d.lines site level =
      d.frame site level (d.items site (level + 1) (!d.nested.isEmpty) ++
        (inOrder d.nested).map (lines ⟨site.scope, false⟩ (level + 1))) := by
  obtain ⟨outline, nested⟩ := d
  rw [lines]
  simp only [linesOfKind_eq_map, inOrder, List.flatMap_cons, List.flatMap_nil, List.map_append,
    List.append_nil, List.append_assoc]

/-- Every nested declaration is written once. -/
theorem inOrder_perm (ds : List TypeDecl) : (inOrder ds).Perm ds := by
  induction ds with
  | nil => exact .refl []
  | cons d ds ih =>
      refine List.Perm.trans ?_ (ih.cons d)
      simp only [inOrder, List.flatMap_cons, List.flatMap_nil, List.append_nil, List.filter_cons]
      cases d.kind with
      | ofClass => exact .refl _
      | ofInterface => exact List.perm_middle
      | ofEnum => exact (List.perm_middle.append_left _).trans List.perm_middle
      | ofRecord =>
          exact (((List.perm_middle.append_left _).trans List.perm_middle).append_left _).trans
            List.perm_middle

/-! ### Writing declarations -/

theorem write_eq (site : Site) (d : TypeDecl) (b : CodeBuilder) :
    d.write site b =
      (writeKind ⟨site.scope, false⟩ .ofRecord d.nested
        (writeKind ⟨site.scope, false⟩ .ofEnum d.nested
          (writeKind ⟨site.scope, false⟩ .ofInterface d.nested
            (writeKind ⟨site.scope, false⟩ .ofClass d.nested
              (d.toOutline.writeOpening site (!d.nested.isEmpty) b))))).closeDecl := by
  obtain ⟨outline, ds⟩ := d
  rw [write]

/-- Nested declarations of one kind, each of which is written as its lines. -/
theorem writeKind_eq_append {site : Site} {ds : List TypeDecl}
    (step : ∀ d ∈ ds, ∀ b, d.write site b = b.append (d.lines site b.level)) (kind : DeclKind)
    (b : CodeBuilder) :
    writeKind site kind ds b =
      b.append (((ds.filter (·.kind == kind)).map (lines site b.level)).flatMap fun item =>
        item ++ [CodeLine.blank]) := by
  induction ds generalizing b with
  | nil =>
      rw [writeKind]
      exact b.append_nil.symm
  | cons d ds ih =>
      have later := ih fun e member => step e (List.mem_cons_of_mem _ member)
      rw [writeKind, later, List.filter_cons]
      split
      · rw [step d List.mem_cons_self, CodeBuilder.blank_eq_append, CodeBuilder.append_append,
          CodeBuilder.append_append]
        simp
      · rfl

/-- **Writing a declaration** puts its lines behind what has been written. -/
theorem write_eq_append (site : Site) (d : TypeDecl) (b : CodeBuilder) :
    d.write site b = b.append (d.lines site b.level) := by
  induction d using inductionOn generalizing site b with
  | step d ih =>
      have step : ∀ e ∈ d.nested, ∀ b,
          e.write ⟨site.scope, false⟩ b = b.append (e.lines ⟨site.scope, false⟩ b.level) :=
        fun e member b => ih e member _ b
      rw [write_eq, Outline.writeOpening_eq_append]
      simp only [writeKind_eq_append step, CodeBuilder.append_append, CodeBuilder.level_append]
      rw [lines_eq, ← Outline.closeDecl_eq_append]
      simp only [inOrder, CodeBuilder.level_deeper, CodeBuilder.level_append, List.map_append,
        List.flatMap_append, List.flatMap_cons, List.flatMap_nil, List.append_nil,
        List.append_assoc]

/-- **The layout of a declaration.**  Its lines go behind what has been written, and the
builder stays as it is otherwise.  They are the comment, the annotations and the header,
which ends in a brace; one level deeper the constants, the fields, the initializer blocks,
the methods and the nested declarations with a blank line between any two of them; and the
closing brace.  The nested declarations stand there by kind, each of them once. -/
theorem write_layout (site : Site) (d : TypeDecl) (b : CodeBuilder) :
    d.write site b = { b with text := b.text ++ CodeLine.print b.indent (d.lines site b.level) } ∧
      (∃ front, d.header site = front ++ "\x7b") ∧
      (∀ level, d.lines site level =
        CodeLine.block level (d.doc.lines ++ d.annotations ++ [d.header site]) ++
          [CodeLine.blank].intercalate
            (d.constantItems (level + 1) (!d.nested.isEmpty) ++
              d.fields.map (Field.lines ⟨site.scope, d.kind == .ofInterface⟩ (level + 1)) ++
              d.initBlocks.map (InitBlock.lines (level + 1)) ++
              d.methods.map (Method.lines ⟨site.scope, d.kind == .ofInterface⟩ (level + 1)) ++
              (inOrder d.nested).map (lines ⟨site.scope, false⟩ (level + 1))) ++
          [⟨level, "\x7d"⟩]) ∧
      (inOrder d.nested).Perm d.nested :=
  ⟨write_eq_append site d b, d.exists_header_eq site, fun level => lines_eq site level d,
    inOrder_perm d.nested⟩

/-- An enumeration with an interface and a class in it. -/
example :
    (write {}
      { kind := .ofEnum
        type := .named "foo.Lamp"
        doc := ⟨["// Lit."]⟩
        constants := ["ON", "OFF"]
        nested := [{ kind := .ofInterface, type := .named "foo.Lamp.Pin" },
          { type := .named "foo.Lamp.Bulb" }] } ⟨.spaces 2, 1, ""⟩).text =
      "  // Lit.\n  public enum Lamp \x7b\n    ON,\n    OFF;\n\n" ++
        "    public class Bulb \x7b\n    \x7d\n\n    public interface Pin \x7b\n    \x7d\n  \x7d\n" := by
  rw [write_eq_append]
  decide +kernel

end TypeDecl

end JavaScaffold
