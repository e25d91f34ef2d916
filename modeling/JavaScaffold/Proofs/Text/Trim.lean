import JavaScaffold.Text.Blank
import Mathlib.Data.List.DropRight
import Mathlib.Data.List.TakeWhile

/-!
# Blanks around a text

Trimming takes a text apart into a middle and two runs of blanks.  The middle is
the same whatever blanks are put around the text, and a text that neither starts
nor ends with a blank is its own middle.

## Main Definitions

* `IsTight` — a text that neither starts nor ends with a blank

## Main Statements

* `IsTight.trim_eq` — a tight text is its own middle
* `trim_pad` — blanks around a text do not matter
* `trim_around` — trimming a text trims both sides of a tight part of it
* `exists_pads` — a text is its middle with blanks around it
-/

namespace JavaScaffold.Text

variable {cs ds front back : List Char}

theorem isBlankText_iff : isBlankText cs = true ↔ ∀ c ∈ cs, isBlank c = true :=
  List.all_eq_true

/-- A character that is not blank is in no blank text. -/
theorem not_mem_of_isBlankText {c : Char} (blank : isBlankText cs = true)
    (visible : isBlank c = false) : c ∉ cs := by
  intro member
  rw [isBlankText_iff.mp blank c member] at visible
  cases visible

theorem trimEnd_eq_rdropWhile (cs : List Char) : trimEnd cs = cs.rdropWhile isBlank := rfl

/-- **A tight text** neither starts nor ends with a blank. -/
structure IsTight (cs : List Char) : Prop where
  /-- The first character, if there is one, is not blank. -/
  first : ∀ c ∈ cs.head?, isBlank c = false
  /-- The last character, if there is one, is not blank. -/
  last : ∀ c ∈ cs.getLast?, isBlank c = false

/-! ### One end -/

theorem trimStart_blanks_append (blank : isBlankText front = true) (cs : List Char) :
    trimStart (front ++ cs) = trimStart cs :=
  List.dropWhile_append_of_pos (isBlankText_iff.mp blank)

theorem trimEnd_append_blanks (cs : List Char) (blank : isBlankText back = true) :
    trimEnd (cs ++ back) = trimEnd cs := by
  rw [trimEnd, List.reverse_append]
  refine congrArg List.reverse (List.dropWhile_append_of_pos fun c member => ?_)
  exact isBlankText_iff.mp blank c (List.mem_reverse.mp member)

theorem trimStart_eq_self (first : ∀ c ∈ cs.head?, isBlank c = false) : trimStart cs = cs := by
  cases cs with
  | nil => rfl
  | cons c rest =>
      exact List.dropWhile_cons_of_neg (Bool.eq_false_iff.mp (first c rfl))

theorem trimEnd_eq_self (last : ∀ c ∈ cs.getLast?, isBlank c = false) : trimEnd cs = cs := by
  rw [trimEnd_eq_rdropWhile, List.rdropWhile_eq_self_iff]
  intro nonempty
  exact Bool.eq_false_iff.mp (last _ (List.getLast?_eq_some_getLast nonempty))

theorem head?_trimStart (cs : List Char) : ∀ c ∈ (trimStart cs).head?, isBlank c = false := by
  induction cs with
  | nil =>
      intro c member
      cases member
  | cons d rest ih =>
      intro c member
      rw [trimStart, List.dropWhile_cons] at member
      split at member
      · exact ih c member
      · next visible =>
          cases member
          exact Bool.eq_false_iff.mpr visible

theorem getLast?_trimEnd (cs : List Char) : ∀ c ∈ (trimEnd cs).getLast?, isBlank c = false := by
  intro c member
  rw [trimEnd_eq_rdropWhile] at member
  obtain ⟨nonempty, same⟩ := List.mem_getLast?_eq_getLast member
  rw [same]
  exact Bool.eq_false_iff.mpr (List.rdropWhile_last_not isBlank cs nonempty)

@[simp] theorem trimEnd_trimEnd (cs : List Char) : trimEnd (trimEnd cs) = trimEnd cs :=
  trimEnd_eq_self (getLast?_trimEnd cs)

theorem exists_trimStart_append (cs : List Char) :
    ∃ front, isBlankText front = true ∧ cs = front ++ trimStart cs := by
  refine ⟨cs.takeWhile isBlank, isBlankText_iff.mpr fun c member => ?_, ?_⟩
  · exact List.mem_takeWhile_imp member
  · exact List.takeWhile_append_dropWhile.symm

theorem exists_append_trimEnd (cs : List Char) :
    ∃ back, isBlankText back = true ∧ cs = trimEnd cs ++ back := by
  refine ⟨cs.rtakeWhile isBlank, isBlankText_iff.mpr fun c member => ?_, ?_⟩
  · exact List.mem_rtakeWhile_imp member
  · exact List.rdropWhile_append_rtakeWhile.symm

/-! ### Both ends -/

theorem IsTight.trim_eq (tight : IsTight cs) : trim cs = cs := by
  rw [trim, trimStart_eq_self tight.first, trimEnd_eq_self tight.last]

/-- Blanks around a text do not change what trimming leaves of it. -/
theorem trim_pad (blankFront : isBlankText front = true) (cs : List Char)
    (blankBack : isBlankText back = true) : trim (front ++ cs ++ back) = trim cs := by
  rw [List.append_assoc, trim, trimStart_blanks_append blankFront]
  obtain ⟨blanks, blank, parts⟩ := exists_trimStart_append cs
  by_cases hidden : trimStart cs = []
  · -- Nothing but blanks is left, so both sides are empty.
    have allBlank : isBlankText (cs ++ back) = true := by
      rw [parts, hidden, List.append_nil, isBlankText, List.all_append, Bool.and_eq_true]
      exact ⟨blank, blankBack⟩
    have nothing := trimStart_blanks_append allBlank []
    rw [List.append_nil] at nothing
    rw [nothing, trim, hidden]
    rfl
  · have shown : trimStart (cs ++ back) = trimStart cs ++ back := by
      rw [trimStart, List.dropWhile_append, if_neg]
      · rfl
      · rw [List.isEmpty_iff]
        exact hidden
    rw [shown, trimEnd_append_blanks _ blankBack, trim]

theorem trim_blanks_append (blank : isBlankText front = true) (cs : List Char) :
    trim (front ++ cs) = trim cs := by
  have nothing : isBlankText [] = true := rfl
  have padded := trim_pad blank cs nothing
  rwa [List.append_nil] at padded

/-- A text is its middle with blanks around it. -/
theorem exists_pads (cs : List Char) :
    ∃ front back, isBlankText front = true ∧ isBlankText back = true ∧
      cs = front ++ trim cs ++ back := by
  obtain ⟨front, blankFront, startParts⟩ := exists_trimStart_append cs
  obtain ⟨back, blankBack, endParts⟩ := exists_append_trimEnd (trimStart cs)
  refine ⟨front, back, blankFront, blankBack, ?_⟩
  rw [List.append_assoc, trim, ← endParts]
  exact startParts

theorem trim_subset (cs : List Char) : trim cs ⊆ cs := by
  intro c member
  obtain ⟨front, back, -, -, parts⟩ := exists_pads cs
  rw [parts]
  exact List.mem_append_left _ (List.mem_append_right _ member)

/-- The first character of a trimmed text is the first one that is not blank. -/
theorem head?_trim (cs : List Char) : (trim cs).head? = cs.find? fun c => !isBlank c := by
  obtain ⟨back, blank, parts⟩ := exists_append_trimEnd (trimStart cs)
  rw [List.find?_not_eq_head?_dropWhile, ← trimStart, trim]
  cases shown : trimEnd (trimStart cs) with
  | cons c rest => rw [parts, shown, List.cons_append, List.head?_cons, List.head?_cons]
  | nil =>
      -- Nothing is left, so nothing but blanks was there.
      rw [shown, List.nil_append] at parts
      rw [parts, List.head?_nil]
      cases back with
      | nil => rfl
      | cons c rest =>
          have visible := head?_trimStart cs c (by rw [parts]; rfl)
          rw [isBlankText_iff.mp blank c List.mem_cons_self] at visible
          cases visible

theorem trim_eq_nil_iff : trim cs = [] ↔ isBlankText cs = true := by
  constructor
  · intro nothing
    obtain ⟨front, back, blankFront, blankBack, parts⟩ := exists_pads cs
    rw [parts, nothing, List.append_nil, isBlankText, List.all_append, Bool.and_eq_true]
    exact ⟨blankFront, blankBack⟩
  · intro blank
    have padded := trim_blanks_append blank []
    rwa [List.append_nil] at padded

/-- Two tight texts side by side are tight. -/
theorem IsTight.append (tight : IsTight cs) (tight' : IsTight ds) : IsTight (cs ++ ds) where
  first := by
    intro c member
    rw [List.head?_append, Option.mem_def, Option.or_eq_some_iff] at member
    rcases member with here | ⟨-, there⟩
    · exact tight.first c here
    · exact tight'.first c there
  last := by
    intro c member
    rw [List.getLast?_append, Option.mem_def, Option.or_eq_some_iff] at member
    rcases member with here | ⟨-, there⟩
    · exact tight'.last c here
    · exact tight.last c there

/-- Trimming a text around a tight part trims what stands on both sides of it. -/
theorem trim_around (front : List Char) (tight : IsTight cs) (some : cs ≠ []) (back : List Char) :
    trim (front ++ cs ++ back) = trimStart front ++ cs ++ trimEnd back := by
  obtain ⟨pre, blankPre, frontParts⟩ := exists_trimStart_append front
  obtain ⟨post, blankPost, backParts⟩ := exists_append_trimEnd back
  have parts : front ++ cs ++ back = pre ++ (trimStart front ++ cs ++ trimEnd back) ++ post := by
    conv_lhs => rw [frontParts, backParts]
    simp only [List.append_assoc]
  rw [parts, trim_pad blankPre _ blankPost]
  refine IsTight.trim_eq ⟨fun c first => ?_, fun c last => ?_⟩
  · rw [List.append_assoc, List.head?_append, Option.mem_def, Option.or_eq_some_iff] at first
    rcases first with here | ⟨-, there⟩
    · exact head?_trimStart front c here
    · rw [List.head?_append_of_ne_nil _ some] at there
      exact tight.first c there
  · rw [List.getLast?_append, Option.mem_def, Option.or_eq_some_iff] at last
    rcases last with here | ⟨-, there⟩
    · exact getLast?_trimEnd back c here
    · rw [List.getLast?_append_of_ne_nil _ some] at there
      exact tight.last c there

/-- A text without any blank is tight. -/
theorem isTight_of_forall (visible : ∀ c ∈ cs, isBlank c = false) : IsTight cs where
  first := fun c member => visible c (List.mem_of_mem_head? member)
  last := fun c member => visible c (List.mem_of_getLast? member)

end JavaScaffold.Text
