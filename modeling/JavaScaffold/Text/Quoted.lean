import JavaScaffold.Text.Ranges
import JavaScaffold.Text.Table.Combining
import JavaScaffold.Text.Table.Invisible

/-!
# Quoting a text in a message

A quoted text shows every character of the text, also those that could not be seen or that would
melt into the quote before them.

## Main Definitions

* `isVisible` — whether a character stands for itself
* `escaped` — how a character is written inside quotes
* `quoted` — a text in double quotes
-/

namespace JavaScaffold.Text

/-- Whether `c` has a form of its own that can be seen: it is no control character, no separator
other than the space, neither unassigned nor a filler that is shown as nothing, and it does not
combine with the character before it. -/
def isVisible (c : Char) : Bool :=
  if c.toNat < 0x80 then ' ' ≤ c && c ≤ '~'
  else !inRanges Table.invisible c && !inRanges Table.combining c

/-- The number of `c` in hexadecimal digits, as an escape. -/
def numberEscape (c : Char) : String :=
  "\\u\x7b" ++ String.ofList (Nat.toDigits 16 c.toNat) ++ "\x7d"

/-- How `c` is written inside double quotes. -/
def escaped (c : Char) : String :=
  match c with
  | '\x00' => "\\0"
  | '\t' => "\\t"
  | '\n' => "\\n"
  | '\r' => "\\r"
  | '"' => "\\\""
  | '\\' => "\\\\"
  | c => if isVisible c then String.singleton c else numberEscape c

/-- The text `s` in double quotes. -/
def quoted (s : String) : String :=
  "\"" ++ String.join (s.toList.map escaped) ++ "\""

end JavaScaffold.Text
