import JavaScaffold.Text.Ranges
import JavaScaffold.Text.Table.Alphabetic
import JavaScaffold.Text.Table.Numeric

/-!
# Letters and digits

The two classes of characters that names are made of.

## Main Definitions

* `isAlphabetic` — characters with the Unicode property `Alphabetic`
* `isNumeric` — characters of the general categories `Nd`, `Nl` and `No`
* `isAlphanumeric` — either of the two

## Design Notes

ASCII characters are decided directly, the others by table, so that a statement about ASCII text
never meets a table.
-/

namespace JavaScaffold.Text

/-- Whether `c` is alphabetic. -/
def isAlphabetic (c : Char) : Bool :=
  if c.toNat < 128 then c.isAlpha else inRanges Table.alphabetic c

/-- Whether `c` is a digit or any other number character, such as `²`, `½` or `Ⅷ`. -/
def isNumeric (c : Char) : Bool :=
  if c.toNat < 128 then c.isDigit else inRanges Table.numeric c

/-- Whether `c` is alphabetic or numeric. -/
def isAlphanumeric (c : Char) : Bool :=
  isAlphabetic c || isNumeric c

end JavaScaffold.Text
