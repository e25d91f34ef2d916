import JavaScaffold.Identifier
import JavaScaffold.Text.Blank

/-!
# The characters of identifiers

Identifiers are made of characters that are neither blank nor used by the notation
of types.  The classes of letters, digits and blanks are tables of ranges, and two
classes have nothing in common when their ranges lie apart.

## Main Definitions

* `Identifier.IsUsable` — names that can be declared
* `Identifier.IsLegal` — names that pass the check in every context

## Main Statements

* `Identifier.isBlank_of_isPart` — no character of an identifier is blank
* `Identifier.isPart_of_flaw?_eq_none` — what a flawless text is made of
* `Identifier.isLegal_iff` — the three conditions on a legal name
-/

namespace JavaScaffold

variable {c : Char} {cs : List Char}

namespace Text

/-- Whether two lists of ranges have no code point in common. -/
def rangesApart (ranges others : List (Nat × Nat)) : Bool :=
  ranges.all fun a => others.all fun b => decide (a.2 < b.1) || decide (b.2 < a.1)

/-- **Ranges that lie apart** have no character in common. -/
theorem inRanges_eq_false_of_rangesApart {ranges others : List (Nat × Nat)}
    (apart : rangesApart ranges others = true) (member : inRanges ranges c = true) :
    inRanges others c = false := by
  obtain ⟨a, inA, above, below⟩ := inRanges_iff.mp member
  refine Bool.eq_false_iff.mpr fun both => ?_
  obtain ⟨b, inB, above', below'⟩ := inRanges_iff.mp both
  have between := List.all_eq_true.mp (List.all_eq_true.mp apart a inA) b inB
  rw [Bool.or_eq_true, decide_eq_true_iff, decide_eq_true_iff] at between
  omega

theorem rangesApart_alphabetic : rangesApart blankRanges Table.alphabetic = true := by
  decide +kernel

theorem rangesApart_numeric : rangesApart blankRanges Table.numeric = true := by
  decide +kernel

/-- Among the ASCII characters, the blank ones stand before all letters and digits. -/
theorem toNat_le_of_isBlank (ascii : c.toNat < 128) (blank : isBlank c = true) :
    c.toNat ≤ 32 := by
  obtain ⟨range, member, above, below⟩ := inRanges_iff.mp blank
  simp only [blankRanges, List.mem_cons, List.not_mem_nil, or_false] at member
  rcases member with rfl | rfl | rfl | rfl | rfl | rfl | rfl | rfl | rfl | rfl
  all_goals
    dsimp only at above below
    omega

theorem isAlpha_eq_false_of_toNat_le (low : c.toNat ≤ 32) : c.isAlpha = false := by
  refine Bool.eq_false_iff.mpr fun letter => ?_
  have either : (c.isUpper || c.isLower) = true := letter
  rcases (Bool.or_eq_true _ _).mp either with upper | lower
  · have above : 65 ≤ c.toNat := UInt32.le_iff_toNat_le.mp (of_decide_eq_true upper).1
    omega
  · have both := (Bool.and_eq_true _ _).mp lower
    have above : 97 ≤ c.toNat := UInt32.le_iff_toNat_le.mp (of_decide_eq_true both.1)
    omega

theorem isDigit_eq_false_of_toNat_le (low : c.toNat ≤ 32) : c.isDigit = false := by
  refine Bool.eq_false_iff.mpr fun digit => ?_
  simp only [Char.isDigit, Bool.and_eq_true, decide_eq_true_eq, ge_iff_le,
    UInt32.le_iff_toNat_le] at digit
  change 48 ≤ c.toNat ∧ c.toNat ≤ 57 at digit
  omega

/-- A blank character is no letter and no digit. -/
theorem isAlphanumeric_of_isBlank (blank : isBlank c = true) : isAlphanumeric c = false := by
  rw [isAlphanumeric, Bool.or_eq_false_iff, isAlphabetic, isNumeric]
  by_cases ascii : c.toNat < 128
  · have low := toNat_le_of_isBlank ascii blank
    rw [if_pos ascii, if_pos ascii]
    exact ⟨isAlpha_eq_false_of_toNat_le low, isDigit_eq_false_of_toNat_le low⟩
  · rw [if_neg ascii, if_neg ascii]
    exact ⟨inRanges_eq_false_of_rangesApart rangesApart_alphabetic blank,
      inRanges_eq_false_of_rangesApart rangesApart_numeric blank⟩

end Text

namespace Identifier

/-- **A usable name** is free and formed like an identifier. -/
structure IsUsable (name : String) : Prop where
  free : isReserved name = false
  flawless : flaw? name.toList = none

theorem isPart_of_isStart (start : isStart c = true) : isPart c = true := by
  rw [isStart, Bool.or_eq_true, Bool.or_eq_true] at start
  rw [isPart, Bool.or_eq_true, Bool.or_eq_true, Text.isAlphanumeric, Bool.or_eq_true]
  rcases start with (letter | underscore) | dollar
  · exact .inl (.inl (.inl letter))
  · exact .inl (.inr underscore)
  · exact .inr dollar

/-- The characters of a flawless text. -/
theorem isPart_of_flaw?_eq_none (flawless : flaw? cs = none) : ∀ c ∈ cs, isPart c = true := by
  intro c member
  cases cs with
  | nil => cases member
  | cons first rest =>
      obtain ⟨start, parts⟩ := flaw?_eq_none_iff.mp flawless first rest rfl
      rcases List.mem_cons.mp member with rfl | later
      · exact isPart_of_isStart start
      · exact parts c later

/-- No character of an identifier is blank. -/
theorem isBlank_of_isPart (part : isPart c = true) : Text.isBlank c = false := by
  refine Bool.eq_false_iff.mpr fun blank => ?_
  rw [isPart, Text.isAlphanumeric_of_isBlank blank, Bool.false_or, Bool.or_eq_true,
    beq_iff_eq, beq_iff_eq] at part
  rcases part with rfl | rfl
  · exact absurd blank (by decide)
  · exact absurd blank (by decide)

/-- A flawless text has no dot. -/
theorem dot_not_mem_of_flaw?_eq_none (flawless : flaw? cs = none) : '.' ∉ cs := by
  intro member
  exact absurd (isPart_of_flaw?_eq_none flawless '.' member) (by decide)

/-- Between the start and the end of a flawless text, only its first character is special:
what is made of a start and of parts is flawless. -/
theorem flaw?_append_eq_none_iff {front : List Char} (start : front ≠ [])
    (flawless : flaw? front = none) :
    flaw? (front ++ cs) = none ↔ ∀ c ∈ cs, isPart c = true := by
  constructor
  · intro whole c member
    exact isPart_of_flaw?_eq_none whole c (List.mem_append_right front member)
  · intro parts
    rw [flaw?_eq_none_iff]
    intro first rest split
    obtain ⟨head, tail, rfl⟩ := List.exists_cons_of_ne_nil start
    obtain ⟨rfl, rfl⟩ := List.cons.inj split
    obtain ⟨starts, goesOn⟩ := flaw?_eq_none_iff.mp flawless head tail rfl
    refine ⟨starts, fun c member => ?_⟩
    rcases List.mem_append.mp member with here | there
    · exact goesOn c here
    · exact parts c there

/-! ### Legal names -/

/-- **A legal name** passes the check of names in every context.  It may be a reserved
word only when `allowReserved`. -/
def IsLegal (allowReserved : Bool) (name : String) : Prop :=
  ∀ context, check name context allowReserved = .ok ()

theorem check_eq_ok_iff {name context : String} {allowReserved : Bool} :
    check name context allowReserved = .ok () ↔
      name ≠ "" ∧ (allowReserved = false → isReserved name = false) ∧
        flaw? name.toList = none := by
  unfold check
  by_cases empty : name = ""
  · simp [empty]
  · cases allowReserved <;> cases isReserved name <;> cases flaw? name.toList <;>
      simp [empty]

/-- A name is legal when it is not empty, not kept by the language unless that is allowed,
and formed like an identifier. -/
theorem isLegal_iff {name : String} {allowReserved : Bool} :
    IsLegal allowReserved name ↔
      name ≠ "" ∧ (allowReserved = false → isReserved name = false) ∧
        flaw? name.toList = none := by
  simp only [IsLegal, check_eq_ok_iff, forall_const]

end Identifier

end JavaScaffold
