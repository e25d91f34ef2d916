import JavaScaffold.Text.Ranges
import JavaScaffold.Text.Table.Capital
import JavaScaffold.Text.Table.Lowercase
import JavaScaffold.Text.Table.Uppercase

/-!
# Letter case

## Main Definitions

* `isLowercase`, `isUppercase` — the Unicode properties of those names
* `capital` — the full upper-case form of a character, which may be several characters

## Design Notes

ASCII characters are decided directly, the others by table, so that a statement about ASCII text
never meets a table.
-/

namespace JavaScaffold.Text

/-- Whether `c` is lowercase. -/
def isLowercase (c : Char) : Bool :=
  if c.toNat < 128 then c.isLower else inRanges Table.lowercase c

/-- Whether `c` is uppercase. -/
def isUppercase (c : Char) : Bool :=
  if c.toNat < 128 then c.isUpper else inRanges Table.uppercase c

/-- The upper-case form of a character beyond ASCII: its expansion when it has one, else its single
upper-case character, else itself. -/
def capitalByTable (c : Char) : List Char :=
  match Table.capitalExpansions.lookup c.toNat with
  | some codes => codes.map Char.ofNat
  | none =>
    match Table.capitalRuns.find? (·.covers c.toNat) with
    | some run => [Char.ofNat (c.toNat + run.distance).toNat]
    | none => [c]

/-- The full upper-case form of `c`. -/
def capital (c : Char) : List Char :=
  if c.toNat < 128 then [c.toUpper] else capitalByTable c

end JavaScaffold.Text
