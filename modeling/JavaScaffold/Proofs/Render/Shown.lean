import JavaScaffold.Proofs.Render.Layout
import JavaScaffold.Proofs.Text.Split
import JavaScaffold.Render.Unit

/-!
# Lines that are shown

The text of a unit is what stands above its declaration, and then the lines of the
declaration.  The lines of a nested declaration are among those of the declaration around
it, so every declaration of a unit shows its header, its fields and its methods, at any
depth.

## Main Definitions

* `TypeDecl.HasLine` — a line of a declaration, at some level

## Main Statements

* `TypeDecl.HasLine.of_encloses` — a line of an enclosed declaration
* `CompilationUnit.render_eq` — the text of a unit
* `CompilationUnit.render_shows_line` — every line of its declaration is shown
* `CompilationUnit.render_shows` — every method of a unit is shown with its first line
-/

namespace JavaScaffold

/-! ### Lines of a declaration -/

namespace TypeDecl

variable {scope : Option Scope} {d e : TypeDecl} {line : String}

/-- The text `line` is one of the lines of a declaration that stands in a class or in a
file, whatever its level is. -/
def HasLine (scope : Option Scope) (d : TypeDecl) (line : String) : Prop :=
  ∀ level, ∃ l ∈ d.lines ⟨scope, false⟩ level, l.text = line

theorem hasLine_header (scope : Option Scope) (d : TypeDecl) :
    d.HasLine scope (d.header ⟨scope, false⟩) := by
  intro level
  refine ⟨⟨level, d.header ⟨scope, false⟩⟩, ?_, rfl⟩
  rw [lines_eq, Outline.frame, CodeLine.block_append]
  simp [CodeLine.block]

/-- A line of an item is a line of the declaration. -/
theorem mem_lines_of_item {site : Site} {level : Nat} (item : List CodeLine) {l : CodeLine}
    (found : item ∈ d.items site (level + 1) (!d.nested.isEmpty) ++
      (inOrder d.nested).map (lines ⟨site.scope, false⟩ (level + 1)))
    (member : l ∈ item) : l ∈ d.lines site level := by
  rw [lines_eq, Outline.frame]
  refine List.mem_append_left _ (List.mem_append_right _ ?_)
  exact (Text.infix_intercalate found).subset member

theorem hasLine_field {f : Field} (member : f ∈ d.fields) :
    d.HasLine scope (f.text ⟨scope, d.kind == .ofInterface⟩) := by
  intro level
  refine ⟨⟨level + 1, f.text ⟨scope, d.kind == .ofInterface⟩⟩, ?_, rfl⟩
  refine mem_lines_of_item (f.lines ⟨scope, d.kind == .ofInterface⟩ (level + 1)) ?_ ?_
  · simp only [Outline.items, List.mem_append]
    exact .inl (.inl (.inl (.inr (List.mem_map_of_mem member))))
  · simp [Field.lines, CodeLine.block]

theorem hasLine_method {m : Method} (member : m ∈ d.methods) :
    d.HasLine scope (m.firstLine ⟨scope, d.kind == .ofInterface⟩) := by
  intro level
  refine ⟨⟨level + 1, m.firstLine ⟨scope, d.kind == .ofInterface⟩⟩, ?_, rfl⟩
  refine mem_lines_of_item (m.lines ⟨scope, d.kind == .ofInterface⟩ (level + 1)) ?_ ?_
  · simp only [Outline.items, List.mem_append]
    exact .inl (.inr (List.mem_map_of_mem member))
  · simp [Method.lines, CodeLine.block]

/-- A line of a nested declaration is a line of the declaration around it. -/
theorem HasLine.of_nested (member : e ∈ d.nested) (shown : e.HasLine scope line) :
    d.HasLine scope line := by
  intro level
  obtain ⟨l, found, rfl⟩ := shown (level + 1)
  refine ⟨l, mem_lines_of_item (e.lines ⟨scope, false⟩ (level + 1)) ?_ found, rfl⟩
  refine List.mem_append_right _ (List.mem_map_of_mem ?_)
  exact (inOrder_perm d.nested).mem_iff.mpr member

theorem HasLine.of_encloses (enclosed : d.Encloses e) (shown : e.HasLine scope line) :
    d.HasLine scope line := by
  induction enclosed with
  | nested member => exact shown.of_nested member
  | inside member _ ih => exact (ih shown).of_nested member

end TypeDecl

/-! ### Units -/

namespace CompilationUnit

variable {line : String} {d : TypeDecl}

/-- Lines above a declaration do not change the level. -/
theorem exists_writeGroup_eq (texts : List String) (b : CodeBuilder) :
    ∃ ls, writeGroup texts b = b.append ls := by
  unfold writeGroup
  split
  · exact ⟨[], b.append_nil.symm⟩
  · rw [CodeBuilder.lines_eq_append, CodeBuilder.blank_eq_append, CodeBuilder.append_append]
    exact ⟨_, rfl⟩

theorem exists_writeHeader_eq (u : CompilationUnit) (b : CodeBuilder) :
    ∃ ls, u.writeHeader b = b.append ls := by
  unfold writeHeader
  obtain ⟨package, first⟩ := exists_writeGroup_eq
    (if u.package == "" then [] else ["package " ++ u.package ++ ";"]) (b.lines u.comments)
  obtain ⟨static, second⟩ := exists_writeGroup_eq u.staticImportLines
    ((b.lines u.comments).append package)
  obtain ⟨imports, third⟩ := exists_writeGroup_eq u.importLines
    (((b.lines u.comments).append package).append static)
  rw [first, second, third, CodeBuilder.lines_eq_append]
  simp only [CodeBuilder.append_append]
  exact ⟨_, rfl⟩

/-- **The text of a unit** is what stands above its declaration, and then the lines of its
declaration. -/
theorem render_eq (u : CompilationUnit) (indent : Indent) :
    u.render indent =
      CodeBuilder.textOf indent u.writeHeader ++
        CodeLine.print indent (u.decl.lines ⟨some u.scope, false⟩ 0) := by
  obtain ⟨ls, header⟩ := u.exists_writeHeader_eq { indent := indent }
  rw [render, CodeBuilder.textOf, CodeBuilder.textOf, write, header, TypeDecl.write_eq_append]
  rfl

/-- **Every line of a declaration** of a unit, at any depth, is shown. -/
theorem render_shows_line (u : CompilationUnit) (indent : Indent)
    (held : d = u.decl ∨ u.decl.Encloses d) (has : d.HasLine (some u.scope) line) :
    ∃ front level back,
      u.render indent = front ++ CodeLine.written indent ⟨level, line⟩ ++ back := by
  have whole : u.decl.HasLine (some u.scope) line := by
    rcases held with rfl | enclosed
    · exact has
    · exact has.of_encloses enclosed
  obtain ⟨l, member, rfl⟩ := whole 0
  obtain ⟨before, after, split⟩ := List.append_of_mem member
  refine ⟨CodeBuilder.textOf indent u.writeHeader ++ CodeLine.print indent before, l.level,
    CodeLine.print indent after, ?_⟩
  rw [u.render_eq indent, split, CodeLine.print_append, ← List.singleton_append,
    CodeLine.print_append, CodeLine.print_singleton]
  simp only [String.append_assoc]

/-- **Every method of a unit**, at any depth, is shown with its first line. -/
theorem render_shows (u : CompilationUnit) (indent : Indent)
    (held : d = u.decl ∨ u.decl.Encloses d) {m : Method} (member : m ∈ d.methods) :
    ∃ front level back, u.render indent = front ++ CodeLine.written indent
      ⟨level, m.firstLine ⟨some u.scope, d.kind == .ofInterface⟩⟩ ++ back :=
  u.render_shows_line indent held (TypeDecl.hasLine_method member)

end CompilationUnit

end JavaScaffold
