import JavaScaffold.Proofs.Layout.Lines
import JavaScaffold.Proofs.Text.OneLine
import Mathlib.Data.List.Induction

/-!
# Writing step by step

Whoever writes code performs steps on a builder, in any order.  The builder keeps
nothing but a text and a level; what is behind the text is a list of lines, and each step
does to that list what it says: it puts lines at the end, or moves the level of those to
come, or takes an empty line at the end away.  How a level is written is not known to the
list at all.

## Main Definitions

* `CodeStep` — the steps, and `CodeBuilder.perform`, what they do to a builder
* `CodeDraft` — lines and a level, and `CodeDraft.perform`, what steps do to them
* `CodeStep.Changes` — what is allowed to happen to the lines in one step

## Main Statements

* `CodeDraft.builder_perform` — a step on a builder is the step on its draft
* `CodeDraft.changes_perform` — a step on a draft does what is allowed
* `CodeDraft.text_performAll` — the text of a builder after any steps

## Design Notes

The texts have to be on one line each.  `dropBlank` looks at the last two characters of
the text, and only then do these tell whether the last line is an empty one.  A line feed
at the very start of the text is a line without one in front of it; it is never taken
away, and the draft keeps its first line for that reason.
-/

namespace JavaScaffold

/-! ### Steps -/

/-- **A step of writing code.** -/
inductive CodeStep
  | line (text : String)
  | lineAt (offset : Int) (text : String)
  | lines (texts : List String)
  | blank
  | deeper
  | shallower
  | dropBlank
  | body (texts : List String)

/-- The builder `b` after a step. -/
def CodeBuilder.perform (b : CodeBuilder) : CodeStep → CodeBuilder
  | .line text => b.line text
  | .lineAt offset text => b.lineAt offset text
  | .lines texts => b.lines texts
  | .blank => b.blank
  | .deeper => b.deeper
  | .shallower => b.shallower
  | .dropBlank => b.dropBlank
  | .body texts => b.body texts

/-- The builder `b` after some steps, in order. -/
def CodeBuilder.performAll (b : CodeBuilder) (steps : List CodeStep) : CodeBuilder :=
  steps.foldl perform b

namespace CodeStep

/-- The texts that a step writes, in order.  Behind a body there is its brace. -/
def texts : CodeStep → List String
  | line text => [text]
  | lineAt _ text => [text]
  | lines texts => texts
  | blank => [""]
  | deeper => []
  | shallower => []
  | dropBlank => []
  | body texts => texts ++ ["\x7d"]

/-- The lines that a step writes around a builder at the level `level`. -/
def newLines (level : Nat) : CodeStep → List CodeLine
  | line text => [⟨level, text⟩]
  | lineAt offset text => [⟨(level + offset).toNat, text⟩]
  | lines texts => CodeLine.block level texts
  | blank => [CodeLine.blank]
  | deeper => []
  | shallower => []
  | dropBlank => []
  | body texts => CodeLine.body level 1 texts

/-- The level after a step. -/
def levelAfter (level : Nat) : CodeStep → Nat
  | deeper => level + 1
  | shallower => level - 1
  | _ => level

/-- Every text of a step is on one line. -/
def IsFlat (step : CodeStep) : Prop :=
  ∀ text ∈ step.texts, Text.IsOneLine text

instance (step : CodeStep) : Decidable step.IsFlat :=
  inferInstanceAs (Decidable (∀ text ∈ step.texts, Text.IsOneLine text))

/-- **What a step may do to lines.**  It writes its texts behind them, in their order, and
leaves all of them in place.  Only `dropBlank` takes something away, which is one line at
most: the last one, and only if that is empty. -/
inductive Changes (ls : List CodeLine) : CodeStep → List CodeLine → Prop
  | writes {step : CodeStep} {new : List CodeLine} (other : step ≠ dropBlank)
      (texts : new.map CodeLine.text = step.texts) : Changes ls step (ls ++ new)
  | keeps : Changes ls dropBlank ls
  | takes {front : List CodeLine} (last : ls = front ++ [CodeLine.blank]) :
      Changes ls dropBlank front

theorem map_text_block (level : Nat) (texts : List String) :
    (CodeLine.block level texts).map CodeLine.text = texts := by
  rw [CodeLine.block, List.map_map]
  exact List.map_id texts

theorem map_text_body (level : Nat) (depth : Int) (texts : List String) :
    (CodeLine.body level depth texts).map CodeLine.text = texts ++ ["\x7d"] := by
  induction texts generalizing depth with
  | nil => rfl
  | cons text texts ih => rw [CodeLine.body, List.map_cons, ih, List.cons_append]

theorem map_text_newLines (level : Nat) (step : CodeStep) :
    (step.newLines level).map CodeLine.text = step.texts := by
  cases step with
  | lines texts => exact map_text_block level texts
  | body texts => exact map_text_body level 1 texts
  | _ => rfl

end CodeStep

/-- **What a step writes.**  Only `dropBlank` looks at what is there. -/
theorem CodeBuilder.perform_eq_append (b : CodeBuilder) {step : CodeStep}
    (other : step ≠ .dropBlank) :
    b.perform step =
      { b.append (step.newLines b.level) with level := step.levelAfter b.level } := by
  cases step with
  | line text => exact b.line_eq_append text
  | lineAt offset text => exact b.lineAt_eq_append offset text
  | lines texts => exact b.lines_eq_append texts
  | blank => exact b.blank_eq_append
  | body texts => exact b.bodyFrom_eq_append 1 texts
  | dropBlank => exact absurd rfl other
  | deeper =>
      rw [CodeStep.newLines, append_nil]
      rfl
  | shallower =>
      rw [CodeStep.newLines, append_nil]
      rfl

/-! ### Lines that tell what they look like -/

namespace CodeLine

variable {l : CodeLine} {ls : List CodeLine}

/-- A line whose level is that of its indentation: it is on one line of the text, and has
no level when it has no text. -/
structure IsSettled (l : CodeLine) : Prop where
  flat : Text.IsOneLine l.text
  level_eq : l.text = "" → l.level = 0

/-- The line `l`, without a level when it has no text. -/
def settled (l : CodeLine) : CodeLine :=
  if l.text.isEmpty then blank else l

theorem text_settled (l : CodeLine) : l.settled.text = l.text := by
  rw [settled]
  split
  · next empty => exact (String.isEmpty_iff.mp empty).symm
  · rfl

theorem isSettled_settled (flat : Text.IsOneLine l.text) : l.settled.IsSettled := by
  refine ⟨by rwa [text_settled], fun empty => ?_⟩
  rw [text_settled] at empty
  rw [settled, if_pos (String.isEmpty_iff.mpr empty)]
  rfl

/-- A settled line without text is a blank one. -/
theorem IsSettled.eq_blank (fixed : l.IsSettled) (empty : l.text = "") : l = blank := by
  obtain ⟨level, text⟩ := l
  obtain rfl : level = 0 := fixed.level_eq empty
  obtain rfl : text = "" := empty
  rfl

/-- The level of an empty line does not show. -/
theorem print_map_settled (indent : Indent) (ls : List CodeLine) :
    print indent (ls.map settled) = print indent ls := by
  induction ls with
  | nil => rfl
  | cons l ls ih =>
      have same : l.settled.written indent = l.written indent := by
        rw [settled]
        split
        · next empty =>
            rw [written, written, if_pos (String.isEmpty_iff.mp empty)]
            rfl
        · rfl
      rw [List.map_cons, print_cons, print_cons, ih, same]

/-- **Settled lines** are written alike, whether they have text or not. -/
theorem print_of_isSettled (fixed : ∀ l ∈ ls, l.IsSettled) (indent : Indent) :
    print indent ls = String.join (ls.map fun l =>
      String.join (List.replicate l.level indent.unit) ++ l.text ++ "\n") := by
  rw [print]
  refine congrArg String.join (List.map_congr_left fun l member => ?_)
  rw [written]
  split
  · next empty =>
      obtain rfl := (fixed l member).eq_blank empty
      rfl
  · rfl

/-- The lines `ls` without the last one, when that is empty and not the only one. -/
def withoutBlank (ls : List CodeLine) : List CodeLine :=
  if 1 < ls.length && ls.getLast?.any (·.text.isEmpty) then ls.dropLast else ls

theorem withoutBlank_append_blank (given : ls ≠ []) : withoutBlank (ls ++ [blank]) = ls := by
  have several : 1 < (ls ++ [blank]).length := by
    have some := List.length_pos_iff.mpr given
    rw [List.length_append, List.length_singleton]
    omega
  rw [withoutBlank, decide_eq_true several, List.getLast?_concat, List.dropLast_concat]
  rfl

theorem withoutBlank_append_of_given (ls : List CodeLine) (given : l.text ≠ "") :
    withoutBlank (ls ++ [l]) = ls ++ [l] := by
  have visible : l.text.isEmpty = false :=
    Bool.eq_false_iff.mpr fun empty => given (String.isEmpty_iff.mp empty)
  rw [withoutBlank, List.getLast?_concat, Option.any_some, visible, Bool.and_false,
    if_neg Bool.false_ne_true]

/-- At most one line is taken away, and only an empty one. -/
theorem withoutBlank_cases (fixed : ∀ l ∈ ls, l.IsSettled) :
    withoutBlank ls = ls ∨ ls = withoutBlank ls ++ [blank] := by
  rcases List.eq_nil_or_concat' ls with rfl | ⟨front, last, rfl⟩
  · exact .inl rfl
  · by_cases empty : last.text = ""
    · obtain rfl := (fixed last (by simp)).eq_blank empty
      by_cases given : front = []
      · subst given
        exact .inl rfl
      · exact .inr (by rw [withoutBlank_append_blank given])
    · exact .inl (withoutBlank_append_of_given front empty)

end CodeLine

namespace CodeBuilder

variable {ls : List CodeLine}

/-- The last character of a text on one line is no line feed. -/
theorem isClosedLine_of_isOneLine {line : String} (flat : Text.IsOneLine line)
    (given : line ≠ "") : IsClosedLine line := by
  have letters : line.toList ≠ [] := fun none => given (String.toList_eq_nil_iff.mp none)
  refine ⟨line.toList.getLast letters, List.getLast?_eq_some_getLast letters, ?_⟩
  intro feed
  exact flat (feed ▸ List.getLast_mem letters)

/-- **Where all is written by settled lines**, the blank line that is taken away is the last
one of them, if that is empty and not the only one. -/
theorem dropBlank_append (fixed : ∀ l ∈ ls, l.IsSettled) (indent : Indent) (level : Nat) :
    (append ⟨indent, level, ""⟩ ls).dropBlank =
      append ⟨indent, level, ""⟩ (CodeLine.withoutBlank ls) := by
  rcases List.eq_nil_or_concat' ls with rfl | ⟨front, last, rfl⟩
  · rw [append_nil]
    rfl
  · have here := fixed last (by simp)
    by_cases empty : last.text = ""
    · obtain rfl := here.eq_blank empty
      by_cases given : front = []
      · subst given
        have single : (append ⟨indent, level, ""⟩ [CodeLine.blank]).text = "\n" := by
          rw [append, CodeLine.print_blank]
          rfl
        refine dropBlank_of_withoutBlankEnd ?_
        rw [List.nil_append, single]
        rfl
      · rw [dropBlank_append_blank _ given, CodeLine.withoutBlank_append_blank given]
    · obtain ⟨line, text⟩ := last
      rw [CodeLine.withoutBlank_append_of_given front empty]
      exact dropBlank_append_closed _ front line (isClosedLine_of_isOneLine here.flat empty)

end CodeBuilder

/-! ### Drafts -/

/-- **A draft**: lines of code, and the level of the next one. -/
structure CodeDraft where
  level : Nat := 0
  lines : List CodeLine := []

namespace CodeDraft

variable {d : CodeDraft} {step : CodeStep} {steps : List CodeStep}

/-- The draft `d` after a step. -/
def perform (d : CodeDraft) : CodeStep → CodeDraft
  | .dropBlank => { d with lines := CodeLine.withoutBlank d.lines }
  | step =>
    { level := step.levelAfter d.level
      lines := d.lines ++ (step.newLines d.level).map CodeLine.settled }

/-- What is left after some steps, in order, where there was nothing. -/
def after (steps : List CodeStep) : CodeDraft :=
  steps.foldl perform {}

/-- The builder that has written the lines of a draft. -/
def builder (indent : Indent) (d : CodeDraft) : CodeBuilder :=
  CodeBuilder.append ⟨indent, d.level, ""⟩ d.lines

/-- Every line of the draft `d` is settled. -/
def IsSettled (d : CodeDraft) : Prop :=
  ∀ l ∈ d.lines, l.IsSettled

theorem perform_of_ne (d : CodeDraft) (other : step ≠ .dropBlank) :
    d.perform step =
      { level := step.levelAfter d.level
        lines := d.lines ++ (step.newLines d.level).map CodeLine.settled } := by
  cases step with
  | dropBlank => exact absurd rfl other
  | _ => rfl

theorem after_concat (steps : List CodeStep) (step : CodeStep) :
    after (steps ++ [step]) = (after steps).perform step := by
  rw [after, after, List.foldl_concat]

/-! ### One step -/

/-- What a step writes is settled in the draft. -/
theorem IsSettled.perform (fixed : d.IsSettled) (flat : step.IsFlat) :
    (d.perform step).IsSettled := by
  by_cases drops : step = .dropBlank
  · subst drops
    intro l member
    refine fixed l ?_
    rcases CodeLine.withoutBlank_cases fixed with same | less
    · rwa [CodeDraft.perform, same] at member
    · rw [less]
      exact List.mem_append_left _ member
  · rw [IsSettled, d.perform_of_ne drops]
    intro l member
    rcases List.mem_append.mp member with old | new
    · exact fixed l old
    · obtain ⟨written, found, rfl⟩ := List.mem_map.mp new
      refine CodeLine.isSettled_settled (flat _ ?_)
      rw [← step.map_text_newLines d.level]
      exact List.mem_map_of_mem found

/-- **A step on a builder is the step on its draft.** -/
theorem builder_perform (fixed : d.IsSettled) (indent : Indent) (step : CodeStep) :
    (d.perform step).builder indent = (d.builder indent).perform step := by
  by_cases drops : step = .dropBlank
  · subst drops
    exact (CodeBuilder.dropBlank_append fixed indent d.level).symm
  · rw [CodeBuilder.perform_eq_append _ drops, d.perform_of_ne drops, builder, builder,
      CodeBuilder.append_append]
    simp only [CodeBuilder.append, CodeLine.print_append, CodeLine.print_map_settled]

/-- **A step on a draft** does to its lines what is allowed. -/
theorem changes_perform (fixed : d.IsSettled) (step : CodeStep) :
    step.Changes d.lines (d.perform step).lines := by
  by_cases drops : step = .dropBlank
  · subst drops
    rcases CodeLine.withoutBlank_cases fixed with same | less
    · rw [perform, same]
      exact .keeps
    · exact .takes less
  · rw [d.perform_of_ne drops]
    refine .writes drops ?_
    rw [List.map_map, ← step.map_text_newLines d.level]
    exact List.map_congr_left fun l _ => l.text_settled

/-! ### Any steps -/

theorem isSettled_after (flat : ∀ step ∈ steps, step.IsFlat) : (after steps).IsSettled := by
  induction steps using List.reverseRecOn with
  | nil => exact List.forall_mem_nil _
  | append_singleton steps step ih =>
      obtain ⟨before, last⟩ := List.forall_mem_append.mp flat
      rw [after_concat]
      exact (ih before).perform (last step List.mem_cons_self)

/-- **Any steps on a builder** are those on the draft, whatever the indentation is. -/
theorem performAll_eq_builder (flat : ∀ step ∈ steps, step.IsFlat) (indent : Indent) :
    CodeBuilder.performAll { indent := indent } steps = (after steps).builder indent := by
  induction steps using List.reverseRecOn with
  | nil => exact (CodeBuilder.append_nil _).symm
  | append_singleton steps step ih =>
      have before := (List.forall_mem_append.mp flat).1
      rw [after_concat, builder_perform (isSettled_after before), ← ih before,
        CodeBuilder.performAll, CodeBuilder.performAll, List.foldl_concat]

/-- **The text of a builder** is a list of lines that its steps make up and the indentation
has no part in: each line is written as a unit of indentation for each of its levels, its
text and a line feed, and an empty one has no level.  So the text is empty or ends in a
line feed.  And the list comes about step by step: a step writes its texts at the end, in
their order, and only `dropBlank` takes a line away, which is the last one and empty. -/
theorem text_performAll (steps : List CodeStep) (flat : ∀ step ∈ steps, step.IsFlat) :
    (∀ indent : Indent,
      (CodeBuilder.performAll { indent := indent } steps).text =
        String.join ((after steps).lines.map fun l =>
          String.join (List.replicate l.level indent.unit) ++ l.text ++ "\n")) ∧
      (∀ l ∈ (after steps).lines, l.text = "" → l.level = 0) ∧
      (∀ indent : Indent,
        let text := (CodeBuilder.performAll { indent := indent } steps).text
        text = "" ∨ ∃ front, text = front ++ "\n") ∧
      (after []).lines = [] ∧
      ∀ before step later, steps = before ++ step :: later →
        step.Changes (after before).lines (after (before ++ [step])).lines := by
  have fixed := isSettled_after flat
  have text : ∀ indent : Indent, (CodeBuilder.performAll { indent := indent } steps).text =
      CodeLine.print indent (after steps).lines := by
    intro indent
    rw [performAll_eq_builder flat indent]
    exact String.empty_append
  refine ⟨fun indent => ?_, fun l member => (fixed l member).level_eq, fun indent => ?_, rfl, ?_⟩
  · rw [text indent, CodeLine.print_of_isSettled fixed]
  · dsimp only
    rw [text indent]
    by_cases given : (after steps).lines = []
    · rw [given]
      exact .inl (CodeLine.print_nil indent)
    · exact .inr (CodeLine.exists_print_eq indent given)
  · rintro before step later rfl
    rw [after_concat]
    exact changes_perform (isSettled_after (List.forall_mem_append.mp flat).1) step

/-- A class with a body in it, behind a blank line that cannot be taken away. -/
def boxSteps : List CodeStep :=
  [.blank, .dropBlank, .line "class Box \x7b", .deeper, .lineAt (-3) "@Sealed",
    .body ["if (full) \x7b", "close();", "\x7d"], .blank, .blank, .dropBlank, .shallower, .shallower,
    .line "\x7d"]

theorem text_performAll_box :
    (∀ step ∈ boxSteps, step.IsFlat) ∧
      (CodeBuilder.performAll { indent := .tab } boxSteps).text =
        "\nclass Box \x7b\n@Sealed\n\t\tif (full) \x7b\n\t\t\tclose();\n\t\t\x7d\n\t\x7d\n\n\x7d\n" ∧
      (CodeBuilder.performAll { indent := .spaces 1 } boxSteps).text =
        "\nclass Box \x7b\n@Sealed\n  if (full) \x7b\n   close();\n  \x7d\n \x7d\n\n\x7d\n" := by
  have flat : ∀ step ∈ boxSteps, step.IsFlat := by decide
  obtain ⟨text, -⟩ := text_performAll boxSteps flat
  exact ⟨flat, (text .tab).trans (by decide +kernel), (text (.spaces 1)).trans (by decide +kernel)⟩

end CodeDraft

end JavaScaffold
