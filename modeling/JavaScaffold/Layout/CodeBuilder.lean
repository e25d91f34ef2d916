import JavaScaffold.Layout.Indent

/-!
# Writing indented code

A builder holds the text written so far and the level of indentation for what comes next.

## Main Definitions

* `CodeBuilder` — the state
* `CodeBuilder.lineAt`, `CodeBuilder.line`, `CodeBuilder.lines`, `CodeBuilder.blank` — writing lines
* `CodeBuilder.deeper`, `CodeBuilder.shallower` — changing the level
* `CodeBuilder.dropBlank` — taking a blank line at the end away again

## Design Notes

Every step ends the text with a line feed.  An empty line is written without indentation.  Levels
never fall below zero: neither the level of the builder nor that of a line written at an offset.
`dropBlank` looks at the text alone, so a line feed at the very start of the text is no blank line
to take away.
-/

namespace JavaScaffold

/-- Indented code in the making. -/
structure CodeBuilder where
  indent : Indent := .standard
  /-- The level of the next line. -/
  level : Nat := 0
  /-- The text written so far. -/
  text : String := ""

namespace CodeBuilder

/-- The text of a line at a level, with its line feed. -/
def lineText (indent : Indent) (level : Nat) (line : String) : String :=
  if line.isEmpty then "\n" else indent.levels level ++ line ++ "\n"

/-- Writes a line `offset` levels away from the level of the builder. -/
def lineAt (b : CodeBuilder) (offset : Int) (line : String) : CodeBuilder :=
  { b with text := b.text ++ lineText b.indent (b.level + offset).toNat line }

/-- Writes a line at the level of the builder. -/
def line (b : CodeBuilder) (line : String) : CodeBuilder :=
  b.lineAt 0 line

/-- Writes lines at the level of the builder. -/
def lines (b : CodeBuilder) (lines : List String) : CodeBuilder :=
  lines.foldl line b

/-- Writes a blank line. -/
def blank (b : CodeBuilder) : CodeBuilder :=
  { b with text := b.text ++ "\n" }

/-- Indents what follows by one more level. -/
def deeper (b : CodeBuilder) : CodeBuilder :=
  { b with level := b.level + 1 }

/-- Indents what follows by one level less. -/
def shallower (b : CodeBuilder) : CodeBuilder :=
  { b with level := b.level - 1 }

/-- The text `cs` without the last line feed, when it ends in two of them. -/
def withoutBlankEnd (cs : List Char) : List Char :=
  if ['\n', '\n'].isSuffixOf cs then cs.dropLast else cs

/-- Takes the blank line at the end of the text away, if there is one. -/
def dropBlank (b : CodeBuilder) : CodeBuilder :=
  { b with text := String.ofList (withoutBlankEnd b.text.toList) }

end CodeBuilder

end JavaScaffold
