/-!
# Character classes given by ranges

A character class of Unicode is data: a list of inclusive ranges of code points.

## Main Definitions

* `inRanges` — membership of a character in such a list
-/

namespace JavaScaffold.Text

/-- Whether the code point of `c` lies in one of the inclusive `ranges`. -/
def inRanges (ranges : List (Nat × Nat)) (c : Char) : Bool :=
  ranges.any fun range => range.1 ≤ c.toNat && c.toNat ≤ range.2

theorem inRanges_iff {ranges : List (Nat × Nat)} {c : Char} :
    inRanges ranges c = true ↔ ∃ range ∈ ranges, range.1 ≤ c.toNat ∧ c.toNat ≤ range.2 := by
  simp [inRanges]

end JavaScaffold.Text
