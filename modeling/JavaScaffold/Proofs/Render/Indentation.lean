import JavaScaffold.Proofs.Layout.FurtherIn
import JavaScaffold.Proofs.Render.Layout
import JavaScaffold.Proofs.Render.Words
import JavaScaffold.Render.Unit

/-!
# Indentation is compositional

A node of the code can be written on its own and put into its place later: what is written
at a level is what is written at level zero, with the text of the level in front of each
line that is not empty.

## Main Definitions

* `TypeDecl.outlines` — a declaration and all declarations inside it, without their nesting
* `CodeNode` — a member or a declaration
* `CodeNode.words`, `CodeNode.bodies` — the words and the bodies in a node

## Main Statements

* `TypeDecl.furtherIn_lines` — a declaration further in
* `CodeNode.write_indented` — writing a node at a level

## Design Notes

A line at a negative level is written at level zero, and a body can ask for such lines: one
that closes more than it opens.  Such lines would not move with the rest, so the bodies are
asked to stay inside.  A line feed in a word would make two lines, the second of them
without any indentation.
-/

namespace JavaScaffold

open Text CodeLine

/-! ### Members -/

theorem Field.furtherIn_lines (site : Site) {f : Field} (flat : AreOneLine f.words)
    (level n : Nat) : FurtherIn n (f.lines site level) (f.lines site (level + n)) := by
  have line := isOneLine_text site flat
  obtain ⟨-, -, doc, annotations, -⟩ := areOneLine_words_iff.mp flat
  exact furtherIn_block (doc.above annotations line) level n

theorem InitBlock.furtherIn_lines {i : InitBlock} (flat : AreOneLine i.words)
    (inside : BodyLine.StaysInside 1 i.body) (level n : Nat) :
    FurtherIn n (i.lines level) (i.lines (level + n)) := by
  have opening : IsOneLine (if i.isStatic then "static \x7b" else "\x7b") := by
    split <;> decide
  obtain ⟨doc, body⟩ := areOneLine_words_iff.mp flat
  refine (furtherIn_block ?_ level n).append (furtherIn_body body inside level n)
  exact AreOneLine.append_iff.mpr ⟨doc, AreOneLine.cons_iff.mpr ⟨opening, nofun⟩⟩

theorem Method.furtherIn_lines (site : Site) {m : Method} (flat : AreOneLine m.words)
    (inside : BodyLine.StaysInside 1 m.body) (level n : Nat) :
    FurtherIn n (m.lines site level) (m.lines site (level + n)) := by
  have line := isOneLine_firstLine site flat
  obtain ⟨-, doc, annotations, body, -⟩ := areOneLine_words_iff.mp flat
  have above := doc.above annotations line
  refine FurtherIn.append (furtherIn_block above level n) ?_
  split
  · exact .nil
  · exact furtherIn_body body inside level n

/-! ### Declarations -/

/-- The bodies in a declaration, apart from its nested declarations. -/
def Outline.bodies (d : Outline) : List (List String) :=
  d.initBlocks.map InitBlock.body ++ d.methods.map Method.body

namespace Outline

variable {d : Outline} {items items' : List (List CodeLine)}

theorem furtherIn_constantItems (flat : AreOneLine d.constants) (hasNested : Bool)
    (level n : Nat) :
    List.Forall₂ (FurtherIn n) (d.constantItems level hasNested)
      (d.constantItems (level + n) hasNested) := by
  unfold constantItems
  split
  · cases final : d.constants.getLast? with
    | some last =>
        have flatLast : IsOneLine last := flat last (List.mem_of_getLast? final)
        have flatOthers : AreOneLine (d.constants.dropLast.map (· ++ ",")) :=
          List.forall_mem_map.mpr fun constant member =>
            (flat constant ((List.dropLast_sublist _).subset member)).append (by decide)
        refine .cons (furtherIn_block ?_ level n) .nil
        exact AreOneLine.append_iff.mpr
          ⟨flatOthers, AreOneLine.cons_iff.mpr ⟨flatLast.append (by decide), nofun⟩⟩
    | none =>
        dsimp only
        split
        · exact .nil
        · exact .cons (furtherIn_block (by decide) level n) .nil
  · exact .nil

/-- The items in front of the nested declarations go further in. -/
theorem furtherIn_items (site : Site) (flat : AreOneLine d.words)
    (inside : ∀ body ∈ d.bodies, BodyLine.StaysInside 1 body) (hasNested : Bool) (level n : Nat) :
    List.Forall₂ (FurtherIn n) (d.items site level hasNested)
      (d.items site (level + n) hasNested) := by
  obtain ⟨-, -, -, -, -, -, constants, -, fields, blocks, methods⟩ := areOneLine_words_iff.mp flat
  rw [AreOneLine.flatMap_iff] at fields blocks methods
  rw [bodies, List.forall_mem_append, List.forall_mem_map, List.forall_mem_map] at inside
  refine List.rel_append (List.rel_append (List.rel_append
    (furtherIn_constantItems constants hasNested level n) ?_) ?_) ?_
  · exact furtherIn_map fun f member => f.furtherIn_lines _ (fields f member) level n
  · exact furtherIn_map fun i member =>
      i.furtherIn_lines (blocks i member) (inside.1 i member) level n
  · exact furtherIn_map fun m member =>
      m.furtherIn_lines _ (methods m member) (inside.2 m member) level n

/-- A declaration goes further in together with its items. -/
theorem furtherIn_frame (site : Site) (flat : AreOneLine d.words) {level n : Nat}
    (each : List.Forall₂ (FurtherIn n) items items') :
    FurtherIn n (d.frame site level items) (d.frame site (level + n) items') := by
  have header := isOneLine_header site flat
  obtain ⟨-, doc, annotations, -⟩ := areOneLine_words_iff.mp flat
  have above := doc.above annotations header
  exact ((furtherIn_block above level n).append (FurtherIn.intercalate_blank each)).append
    (furtherIn_singleton (by decide) level n)

end Outline

namespace TypeDecl

mutual

/-- **A declaration and all declarations inside it**, each without its nested ones. -/
def outlines : TypeDecl → List Outline
  | ⟨outline, nested⟩ => outline :: outlinesAll nested

/-- Some declarations and all declarations inside them. -/
def outlinesAll : List TypeDecl → List Outline
  | [] => []
  | d :: ds => d.outlines ++ outlinesAll ds

end

theorem outlinesAll_eq_flatMap (ds : List TypeDecl) : outlinesAll ds = ds.flatMap outlines := by
  induction ds with
  | nil => rfl
  | cons d ds ih => simp [outlinesAll, ih]

theorem outlines_eq (d : TypeDecl) :
    d.outlines = d.toOutline :: d.nested.flatMap outlines := by
  cases d
  simp [outlines, outlinesAll_eq_flatMap]

/-- **A declaration goes further in** with its members and with all declarations inside. -/
theorem furtherIn_lines (site : Site) {d : TypeDecl}
    (flat : ∀ o ∈ d.outlines, AreOneLine o.words)
    (inside : ∀ o ∈ d.outlines, ∀ body ∈ o.bodies, BodyLine.StaysInside 1 body) (level n : Nat) :
    FurtherIn n (d.lines site level) (d.lines site (level + n)) := by
  induction d using inductionOn generalizing site level with
  | step d ih =>
      rw [outlines_eq, List.forall_mem_cons, List.forall_mem_flatMap] at flat inside
      rw [lines_eq, lines_eq]
      refine d.furtherIn_frame site flat.1 (List.rel_append ?_ ?_)
      · rw [Nat.add_right_comm]
        exact d.furtherIn_items site flat.1 inside.1 _ (level + 1) n
      · refine furtherIn_map fun e member => ?_
        have nested := (inOrder_perm d.nested).mem_iff.mp member
        rw [Nat.add_right_comm]
        exact ih e nested _ (flat.2 e nested) (inside.2 e nested) (level + 1)

end TypeDecl

/-! ### Nodes -/

/-- **A node of the code**, which can be written on its own. -/
inductive CodeNode
  | field (f : Field)
  | method (m : Method)
  | initBlock (i : InitBlock)
  | decl (d : TypeDecl)

namespace CodeNode

/-- Writes a node. -/
def write (site : Site) : CodeNode → CodeBuilder → CodeBuilder
  | field f => f.write site
  | method m => m.write site
  | initBlock i => i.write
  | decl d => d.write site

/-- **The names and texts in a node.** -/
def words : CodeNode → List String
  | field f => f.words
  | method m => m.words
  | initBlock i => i.words
  | decl d => d.outlines.flatMap Outline.words

/-- **The bodies in a node.** -/
def bodies : CodeNode → List (List String)
  | field _ => []
  | method m => [m.body]
  | initBlock i => [i.body]
  | decl d => d.outlines.flatMap Outline.bodies

/-- The lines of a node at a level. -/
def lines (site : Site) (level : Nat) : CodeNode → List CodeLine
  | field f => f.lines site level
  | method m => m.lines site level
  | initBlock i => i.lines level
  | decl d => d.lines site level

variable {node : CodeNode}

theorem write_eq_append (site : Site) (node : CodeNode) (b : CodeBuilder) :
    node.write site b = b.append (node.lines site b.level) := by
  cases node with
  | field f => exact f.write_eq_append site b
  | method m => exact m.write_eq_append site b
  | initBlock i => exact i.write_eq_append b
  | decl d => exact d.write_eq_append site b

theorem furtherIn_lines (site : Site) (flat : AreOneLine node.words)
    (inside : ∀ body ∈ node.bodies, BodyLine.StaysInside 1 body) (level n : Nat) :
    FurtherIn n (node.lines site level) (node.lines site (level + n)) := by
  cases node with
  | field f => exact f.furtherIn_lines site flat level n
  | method m => exact m.furtherIn_lines site flat (inside _ List.mem_cons_self) level n
  | initBlock i => exact i.furtherIn_lines flat (inside _ List.mem_cons_self) level n
  | decl d =>
      refine d.furtherIn_lines site (AreOneLine.flatMap_iff.mp flat) ?_ level n
      exact List.forall_mem_flatMap.mp inside

/-- The text of a node on its own is the text of its lines at level zero. -/
theorem textOf_write (site : Site) (node : CodeNode) (indent : Indent) :
    CodeBuilder.textOf indent (node.write site) = print indent (node.lines site 0) := by
  rw [CodeBuilder.textOf, write_eq_append]
  exact String.empty_append

/-- **Indentation is compositional.**  Writing a node at a level puts behind what has been
written the text of the node at level zero, with as many units of indentation as the level
in front of each line that is not empty.  This holds of every node in whose words there is
no line feed and whose bodies stay inside. -/
theorem write_indented (site : Site) (node : CodeNode) (flat : AreOneLine node.words)
    (inside : ∀ body ∈ node.bodies, BodyLine.StaysInside 1 body) (b : CodeBuilder) :
    node.write site b =
      { b with
        text := b.text ++
          prefixLines (String.join (List.replicate b.level b.indent.unit))
            (CodeBuilder.textOf b.indent (node.write site)) } := by
  have further := furtherIn_lines site flat inside 0 b.level
  rw [Nat.zero_add] at further
  rw [textOf_write, ← further.print_eq, write_eq_append]
  rfl

/-- A class with a commented method and with an interface inside it. -/
def ladder : CodeNode :=
  .decl
    { type := TypeRef.named "foo.Ladder"
      methods := [{ name := "climb"
                    doc := some "Up.\n\nOr not."
                    params := [{ name := "n", type := TypeRef.named "int" }]
                    body := ["if (n > 0) \x7b", "up();", "", "\x7d else \x7b", "rest();", "\x7d"] }]
      nested := [{ kind := .ofInterface
                   type := (TypeRef.named "foo.Ladder").nested "Rung"
                   initBlocks := [{ isStatic := true, body := ["hold();"] }] }] }

theorem write_indented_ladder :
    AreOneLine ladder.words ∧ (∀ body ∈ ladder.bodies, BodyLine.StaysInside 1 body) ∧
      ladder.write ⟨none, false⟩ ⟨.tab, 2, "package foo;\n"⟩ =
        ⟨.tab, 2, "package foo;\n" ++
          ("\t\tpublic class Ladder \x7b\n\t\t\t/**\n\t\t\t * Up.\n\t\t\t *\n\t\t\t * Or not.\n" ++
            "\t\t\t */\n\t\t\tpublic void climb(int n) \x7b\n\t\t\t\tif (n > 0) \x7b\n" ++
            "\t\t\t\t\tup();\n\n\t\t\t\t\x7d else \x7b\n\t\t\t\t\trest();\n\t\t\t\t\x7d\n" ++
            "\t\t\t\x7d\n\n\t\t\tpublic interface Rung \x7b\n\t\t\t\tstatic \x7b\n" ++
            "\t\t\t\t\thold();\n\t\t\t\t\x7d\n\t\t\t\x7d\n\t\t\x7d\n")⟩ := by
  have flat : AreOneLine ladder.words := by decide
  have inside : ∀ body ∈ ladder.bodies, BodyLine.StaysInside 1 body := by decide
  have indented := write_indented ⟨none, false⟩ ladder flat inside ⟨.tab, 2, "package foo;\n"⟩
  -- The text is evaluated line by line, which is faster than as a whole.
  have further := (furtherIn_lines ⟨none, false⟩ flat inside 0 2).print_eq .tab
  rw [textOf_write, ← further] at indented
  refine ⟨flat, inside, indented.trans ?_⟩
  exact congrArg (fun text => CodeBuilder.mk .tab 2 ("package foo;\n" ++ text)) (by decide +kernel)

end CodeNode

end JavaScaffold
