/-!
# Indentation

## Main Definitions

* `Indent` — a number of spaces, or a tab
* `Indent.unit` — the text of one level
* `Indent.standard` — four spaces
-/

namespace JavaScaffold

/-- How one level of indentation is written. -/
inductive Indent
  | spaces (width : Nat)
  | tab
  deriving DecidableEq

namespace Indent

/-- Four spaces. -/
def standard : Indent := spaces 4

/-- The widest level, in spaces. -/
def maxWidth : Nat := 16

/-- The text of one level.  A width beyond the widest level counts as that. -/
def unit : Indent → String
  | spaces width => String.ofList (List.replicate (min width maxWidth) ' ')
  | tab => "\t"

/-- The text of `level` levels. -/
def levels (indent : Indent) (level : Nat) : String :=
  String.join (List.replicate level indent.unit)

end Indent

end JavaScaffold
