import JavaScaffold.Text.Split

/-!
# Lines of a text

A line ends at a line feed, and one carriage return right before that line feed belongs to the line
ending.  A text that ends in a line feed has no empty last line.

## Main Definitions

* `lines` — the lines of a text, without their endings
-/

namespace JavaScaffold.Text

/-- The text `cs` without one carriage return at its end. -/
def dropReturn (cs : List Char) : List Char :=
  if cs.getLast? = some '\r' then cs.dropLast else cs

/-- The lines of a text, given by its pieces between line feeds.  The last piece has no line feed
behind it: it is a line as it stands, unless it is empty. -/
def linesOfPieces : List (List Char) → List (List Char)
  | [] => []
  | [last] => if last.isEmpty then [] else [last]
  | piece :: pieces => dropReturn piece :: linesOfPieces pieces

/-- The lines of `s`. -/
def lines (s : String) : List String :=
  (linesOfPieces (splitAll '\n' s.toList)).map String.ofList

end JavaScaffold.Text
