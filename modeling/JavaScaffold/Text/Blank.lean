import JavaScaffold.Text.Ranges

/-!
# Blank characters and trimming

A character is blank when it has the Unicode property `White_Space`.  That class holds the no-break
space, the line and paragraph separators and the ideographic space; it does not hold the zero-width
space, the byte-order mark or the information separators.

## Main Definitions

* `isBlank` — the class itself
* `trimStart`, `trimEnd`, `trim` — a text without the blanks at its ends
* `isBlankText` — a text of blanks only

## Design Notes

Texts that are taken apart character by character are `List Char` here.  The versions on `String`
go through `String.toList` and add no rule of their own.
-/

namespace JavaScaffold.Text

/-- The blank code points. -/
def blankRanges : List (Nat × Nat) :=
  [(0x9, 0xd), (0x20, 0x20), (0x85, 0x85), (0xa0, 0xa0), (0x1680, 0x1680), (0x2000, 0x200a),
    (0x2028, 0x2029), (0x202f, 0x202f), (0x205f, 0x205f), (0x3000, 0x3000)]

/-- Whether `c` is blank. -/
def isBlank (c : Char) : Bool :=
  inRanges blankRanges c

/-- The text `cs` without its leading blanks. -/
def trimStart (cs : List Char) : List Char :=
  cs.dropWhile isBlank

/-- The text `cs` without its trailing blanks. -/
def trimEnd (cs : List Char) : List Char :=
  (cs.reverse.dropWhile isBlank).reverse

/-- The text `cs` without the blanks at both of its ends. -/
def trim (cs : List Char) : List Char :=
  trimEnd (trimStart cs)

/-- Whether `cs` holds nothing but blanks. -/
def isBlankText (cs : List Char) : Bool :=
  cs.all isBlank

/-- The text `s` without the blanks at both of its ends. -/
def trimmed (s : String) : String :=
  String.ofList (trim s.toList)

theorem length_trimStart_le (cs : List Char) : (trimStart cs).length ≤ cs.length :=
  (List.dropWhile_sublist _).length_le

theorem length_trimEnd_le (cs : List Char) : (trimEnd cs).length ≤ cs.length := by
  simpa [trimEnd] using (List.dropWhile_sublist isBlank (l := cs.reverse)).length_le

/-- Trimming never makes a text longer. -/
theorem length_trim_le (cs : List Char) : (trim cs).length ≤ cs.length :=
  Nat.le_trans (length_trimEnd_le _) (length_trimStart_le _)

@[simp] theorem toList_trimmed (s : String) : (trimmed s).toList = trim s.toList := by
  simp [trimmed]

end JavaScaffold.Text
