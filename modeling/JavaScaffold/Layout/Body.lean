import JavaScaffold.Layout.CodeBuilder

/-!
# Bodies of methods and blocks

The lines of a body are opaque, yet they are written with indentation that follows their nesting.
The nesting is guessed from how a line starts and ends:

* a line that starts with `}` closes a level before it is written;
* a line that ends in `{` opens a level after it, unless it starts with `switch`; so does a line
  that ends in `:`;
* a line that starts with `break` closes a level after it, unless the next line starts with `}`.

## Main Definitions

* `BodyLine.isCloser`, `BodyLine.isOpener`, `BodyLine.isBreak` — the three marks of a line
* `CodeBuilder.bodyFrom`, `CodeBuilder.body` — the lines of a body and the brace after them

## Design Notes

Lines that do not balance shift all that follows them, the brace at the end included.
-/

namespace JavaScaffold

namespace BodyLine

/-- Whether a line starts with a closing brace. -/
def isCloser (line : String) : Bool :=
  line.toList.head? == some '}'

/-- Whether the lines after this one are nested in it: it ends in an opening brace without starting
with `switch`, or it ends in a colon. -/
def isOpener (line : String) : Bool :=
  (line.toList.getLast? == some '{' && !("switch".toList.isPrefixOf line.toList)) ||
    line.toList.getLast? == some ':'

/-- Whether a line starts with `break`. -/
def isBreak (line : String) : Bool :=
  "break".toList.isPrefixOf line.toList

/-- Whether a line starts with `break` and the line after it, if any, is no closer. -/
def endsCase (line : String) (rest : List String) : Bool :=
  isBreak line && !(rest.head?.any isCloser)

/-- The depth of a line that stands where the depth is `depth`. -/
def depthAt (depth : Int) (line : String) : Int :=
  if isCloser line then depth - 1 else depth

/-- The depth after a line that was written at `depth` and is followed by `rest`. -/
def depthAfter (depth : Int) (line : String) (rest : List String) : Int :=
  depth + (if isOpener line then 1 else 0) - (if endsCase line rest then 1 else 0)

end BodyLine

namespace CodeBuilder

/-- Writes the lines of a body from a depth on, then the closing brace one level further out. -/
def bodyFrom (depth : Int) (b : CodeBuilder) : List String → CodeBuilder
  | [] => b.lineAt (depth - 1) "\x7d"
  | line :: rest =>
    let own := BodyLine.depthAt depth line
    bodyFrom (BodyLine.depthAfter own line rest) (b.lineAt own line) rest

/-- Writes the lines of a body one level deeper, then the closing brace. -/
def body (b : CodeBuilder) (lines : List String) : CodeBuilder :=
  b.bodyFrom 1 lines

end CodeBuilder

end JavaScaffold
