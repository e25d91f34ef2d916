import JavaScaffold.Layout.Body
import Mathlib.Data.List.Basic

/-!
# Code as a list of lines

A builder only ever writes lines, so what it has written since some moment is a list of
lines, each at a level of its own.  Every step is said here in these terms, and whoever
writes something larger speaks about lists and not about the text.

## Main Definitions

* `CodeLine` — a line and its level
* `CodeLine.written`, `CodeLine.print` — the text of a line, and of some lines
* `CodeLine.body` — the lines of the body of a method or a block
* `CodeBuilder.append` — a builder with more lines

## Main Statements

* `CodeLine.lineText_eq_written` — a builder writes the text of a line
* `CodeBuilder.lineAt_eq_append`, `CodeBuilder.bodyFrom_eq_append` — what the steps write
* `CodeBuilder.dropBlank_append_blank`, `CodeBuilder.dropBlank_append_closed` — a blank line
  is taken away exactly when it is the last one
* `CodeBuilder.dropBlank_append_groups` — groups with a blank line behind each

## Design Notes

`dropBlank` is the only step that looks at what is there.  It sees the text and not the
lines, and a line can have line feeds in it.  What matters is therefore how the line in
front ends: behind any line, a blank one is taken away, and a line that does not end in a
line feed of its own is left alone.
-/

namespace JavaScaffold

/-- **A line of code** at its level of indentation. -/
structure CodeLine where
  level : Nat
  text : String

namespace CodeLine

variable {indent : Indent} {ls : List CodeLine}

/-- A line without text, and so without indentation. -/
def blank : CodeLine := ⟨0, ""⟩

/-- Some texts as lines at one level. -/
def block (level : Nat) (texts : List String) : List CodeLine :=
  texts.map (CodeLine.mk level)

/-- The lines of a body from a depth on, around a builder at the level `level`, and the
closing brace one level further out. -/
def body (level : Nat) (depth : Int) : List String → List CodeLine
  | [] => [⟨(level + (depth - 1)).toNat, "\x7d"⟩]
  | line :: rest =>
    let own := BodyLine.depthAt depth line
    ⟨(level + own).toNat, line⟩ :: body level (BodyLine.depthAfter own line rest) rest

/-- **The text of a line**: a unit of indentation for each of its levels, the line itself
and a line feed.  An empty line is a mere line feed, whatever its level is. -/
def written (indent : Indent) (l : CodeLine) : String :=
  if l.text = "" then "\n"
  else String.join (List.replicate l.level indent.unit) ++ l.text ++ "\n"

/-- What a builder writes for a line is the text of the line. -/
theorem lineText_eq_written (indent : Indent) (level : Nat) (text : String) :
    CodeBuilder.lineText indent level text = written indent ⟨level, text⟩ := by
  simp only [CodeBuilder.lineText, written, String.isEmpty_iff, Indent.levels]

/-- **The text of some lines**, one after the other. -/
def print (indent : Indent) (ls : List CodeLine) : String :=
  String.join (ls.map (written indent))

@[simp] theorem print_nil (indent : Indent) : print indent [] = "" := by
  simp [print]

theorem print_cons (indent : Indent) (l : CodeLine) (ls : List CodeLine) :
    print indent (l :: ls) = l.written indent ++ print indent ls := by
  simp [print]

@[simp] theorem print_append (indent : Indent) (ls ms : List CodeLine) :
    print indent (ls ++ ms) = print indent ls ++ print indent ms := by
  simp [print]

theorem print_singleton (indent : Indent) (l : CodeLine) :
    print indent [l] = l.written indent := by
  simp [print]

@[simp] theorem print_blank (indent : Indent) : print indent [blank] = "\n" :=
  print_singleton indent blank

theorem block_append (level : Nat) (texts more : List String) :
    block level (texts ++ more) = block level texts ++ block level more :=
  List.map_append

/-- Where there are lines, the text ends in a line feed. -/
theorem exists_print_eq (indent : Indent) (given : ls ≠ []) :
    ∃ front, print indent ls = front ++ "\n" := by
  rcases List.eq_nil_or_concat' ls with rfl | ⟨before, last, rfl⟩
  · exact absurd rfl given
  · rw [print_append, print_singleton, written]
    split
    · exact ⟨_, rfl⟩
    · exact ⟨_, String.append_assoc.symm⟩

/-- With a blank line behind each of some groups, there is one between any two of them and
one behind the last. -/
theorem flatMap_append_blank {groups : List (List CodeLine)} (given : groups ≠ []) :
    (groups.flatMap fun group => group ++ [blank]) = [blank].intercalate groups ++ [blank] := by
  induction groups with
  | nil => exact absurd rfl given
  | cons group groups ih =>
      by_cases alone : groups = []
      · simp [alone]
      · rw [List.flatMap_cons, ih alone, List.intercalate_cons_of_ne_nil alone]
        simp

end CodeLine

namespace CodeBuilder

variable {b : CodeBuilder} {ls ms : List CodeLine}

/-- **The builder `b` with more lines** behind what it has written. -/
def append (b : CodeBuilder) (ls : List CodeLine) : CodeBuilder :=
  { b with text := b.text ++ CodeLine.print b.indent ls }

@[simp] theorem level_append (b : CodeBuilder) (ls : List CodeLine) :
    (b.append ls).level = b.level := rfl

@[simp] theorem append_nil (b : CodeBuilder) : b.append [] = b := by
  simp [append]

@[simp] theorem append_append (b : CodeBuilder) (ls ms : List CodeLine) :
    (b.append ls).append ms = b.append (ls ++ ms) := by
  simp [append, String.append_assoc]

/-! ### Steps -/

theorem lineAt_eq_append (b : CodeBuilder) (offset : Int) (text : String) :
    b.lineAt offset text = b.append [⟨(b.level + offset).toNat, text⟩] := by
  rw [append, CodeLine.print_singleton, lineAt, CodeLine.lineText_eq_written]

theorem line_eq_append (b : CodeBuilder) (text : String) :
    b.line text = b.append [⟨b.level, text⟩] := by
  rw [line, lineAt_eq_append, Int.add_zero, Int.toNat_natCast]

theorem blank_eq_append (b : CodeBuilder) : b.blank = b.append [CodeLine.blank] := by
  rw [append, CodeLine.print_blank, blank]

theorem lines_eq_append (b : CodeBuilder) (texts : List String) :
    b.lines texts = b.append (CodeLine.block b.level texts) := by
  unfold lines
  induction texts generalizing b with
  | nil => exact b.append_nil.symm
  | cons text texts ih =>
      rw [List.foldl_cons, ih, line_eq_append, append_append]
      rfl

/-- **The lines of a body.**  None of them moves the builder to another level. -/
theorem bodyFrom_eq_append (b : CodeBuilder) (depth : Int) (texts : List String) :
    b.bodyFrom depth texts = b.append (CodeLine.body b.level depth texts) := by
  induction texts generalizing depth b with
  | nil => exact b.lineAt_eq_append _ _
  | cons text texts ih =>
      rw [bodyFrom, ih, lineAt_eq_append, append_append]
      rfl

/-! ### Levels -/

@[simp] theorem level_deeper (b : CodeBuilder) : b.deeper.level = b.level + 1 := rfl

theorem deeper_append (b : CodeBuilder) (ls : List CodeLine) :
    b.deeper.append ls = (b.append ls).deeper := rfl

theorem dropBlank_deeper (b : CodeBuilder) : b.deeper.dropBlank = b.dropBlank.deeper := rfl

@[simp] theorem shallower_deeper (b : CodeBuilder) : b.deeper.shallower = b := rfl

/-! ### Blank lines at the end -/

/-- The line `line` has a last character, which is not a line feed. -/
def IsClosedLine (line : String) : Prop :=
  ∃ c ∈ line.toList.getLast?, c ≠ '\n'

/-- A builder whose text is `text` once the blank line at its end is gone. -/
theorem dropBlank_of_withoutBlankEnd {text : String}
    (h : withoutBlankEnd b.text.toList = text.toList) : b.dropBlank = { b with text := text } := by
  rw [dropBlank, h, String.ofList_toList]

/-- Behind any line, a blank one is taken away again. -/
theorem dropBlank_append_blank (b : CodeBuilder) (given : ls ≠ []) :
    (b.append (ls ++ [CodeLine.blank])).dropBlank = b.append ls := by
  obtain ⟨front, text⟩ := CodeLine.exists_print_eq b.indent given
  have ends : (b.append (ls ++ [CodeLine.blank])).text.toList =
      (b.append ls).text.toList ++ ['\n'] := by
    simp [append]
  have blankEnd : ['\n', '\n'] <:+ (b.append ls).text.toList ++ ['\n'] :=
    ⟨(b.text ++ front).toList, by simp [append, text]⟩
  refine dropBlank_of_withoutBlankEnd ?_
  rw [ends, withoutBlankEnd, if_pos (List.isSuffixOf_iff_suffix.mpr blankEnd), List.dropLast_concat]
  rfl

/-- A closed line stays. -/
theorem dropBlank_append_closed (b : CodeBuilder) (ls : List CodeLine) (level : Nat)
    {line : String} (closed : IsClosedLine line) :
    (b.append (ls ++ [⟨level, line⟩])).dropBlank = b.append (ls ++ [⟨level, line⟩]) := by
  obtain ⟨c, last, inner⟩ := closed
  obtain ⟨start, letters⟩ := List.getLast?_eq_some_iff.mp (Option.mem_def.mp last)
  have given : line ≠ "" := by
    rintro rfl
    simp at letters
  have ends : (b.append (ls ++ [⟨level, line⟩])).text.toList =
      ((b.append ls).text.toList ++ (String.join (List.replicate level b.indent.unit)).toList ++
        start) ++ [c, '\n'] := by
    simp [append, CodeLine.print_singleton, CodeLine.written, given, letters]
  have noBlankEnd :
      ¬ ['\n', '\n'].isSuffixOf (b.append (ls ++ [⟨level, line⟩])).text.toList = true := by
    rw [List.isSuffixOf_iff_suffix, ends]
    rintro ⟨whole, parts⟩
    exact inner (List.cons.inj (List.append_inj' parts rfl).2).1.symm
  refine dropBlank_of_withoutBlankEnd ?_
  rw [withoutBlankEnd, if_neg noBlankEnd]
  rfl

/-- Behind a closed line, groups with a blank line behind each become groups with a blank
line between any two of them.  Without groups, the closed line stays. -/
theorem dropBlank_append_groups (b : CodeBuilder) (ls : List CodeLine) (level : Nat)
    {line : String} (closed : IsClosedLine line) (groups : List (List CodeLine)) :
    (b.append (ls ++ [⟨level, line⟩] ++
        groups.flatMap fun group => group ++ [CodeLine.blank])).dropBlank =
      b.append (ls ++ [⟨level, line⟩] ++ [CodeLine.blank].intercalate groups) := by
  by_cases none : groups = []
  · rw [none, List.flatMap_nil, List.intercalate_nil, List.append_nil]
    exact b.dropBlank_append_closed ls level closed
  · rw [CodeLine.flatMap_append_blank none, ← List.append_assoc]
    exact b.dropBlank_append_blank (by simp)

end CodeBuilder

end JavaScaffold
