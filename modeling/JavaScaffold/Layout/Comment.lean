import JavaScaffold.Text.Blank
import JavaScaffold.Text.Lines

/-!
# Documentation comments

A declaration keeps its comment as the lines that are written, delimiters included.  They are
arbitrary lines, but most often they are made of a text.

## Main Definitions

* `Comment.lines` — a text as the lines of a documentation comment
* `DocComment` — the comment of a declaration
* `DocComment.ofText?` — the comment made of a text that may be missing
-/

namespace JavaScaffold

namespace Comment

/-- One line of a text inside a comment.  Blanks at its end are dropped. -/
def innerLine (line : String) : String :=
  let text := Text.trimEnd line.toList
  if text.isEmpty then " *" else " * " ++ String.ofList text

/-- The text `text` as the lines of a documentation comment. -/
def lines (text : String) : List String :=
  "/**" :: (Text.lines text).map innerLine ++ [" */"]

end Comment

/-- The documentation comment of a declaration: the lines above everything else.  A declaration
without a comment has no lines there. -/
structure DocComment where
  lines : List String := []

/-- The comment made of a text.  Without a text there is no comment. -/
def DocComment.ofText? : Option String → DocComment
  | some text => { lines := Comment.lines text }
  | none => {}

/-- A text, where a comment is asked for, is the comment made of it. -/
instance : Coe (Option String) DocComment where
  coe := DocComment.ofText?

end JavaScaffold
