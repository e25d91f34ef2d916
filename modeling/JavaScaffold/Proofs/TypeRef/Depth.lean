import JavaScaffold.TypeRef.Bracketing
import Mathlib.Data.List.Basic

/-!
# Bracket depth and argument lists

The text between two angle brackets is cut at its commas of depth zero, with the
depth counted along the text.  A closed text leaves the depth where it found it and
is never cut, so a list of closed texts with commas between them is taken apart
into exactly these texts.

## Main Definitions

* `Passes` — a text leads from one depth to another without a cut
* `IsClosed` — a text that is passed at every depth and leaves the depth unchanged

## Main Statements

* `IsClosed.angles` — closed texts between angle brackets make up a closed text
* `splitArguments_intercalate` — an argument list is taken apart into its arguments
* `exists_of_splitArguments` — every text that can be taken apart is such a list

## Design Notes

A comma is a cut at depth zero only, so passing a text at depth zero does not mean
passing it at depth one: the depth inside `b>,c<d` goes below the start.  Closedness
therefore asks for every depth from zero on, which is what one more pair of brackets
around a text needs.
-/

namespace JavaScaffold

variable {cs ds text : List Char} {segments : List (List Char)} {d e f : Int}

/-- **Passing a text.**  The text leads from the first depth to the second one, and
no comma in it stands at depth zero. -/
def Passes : Int → List Char → Int → Prop
  | d, [], e => d = e
  | d, c :: cs, e => ¬ (c = ',' ∧ d = 0) ∧ Passes (d + depthStep c) cs e

theorem Passes.append (first : Passes d cs e) (second : Passes e ds f) :
    Passes d (cs ++ ds) f := by
  induction cs generalizing d with
  | nil =>
      rw [Passes] at first
      rwa [first]
  | cons c cs ih => exact ⟨first.1, ih first.2⟩

/-- The segments of a text that has been passed go on with what follows it. -/
def joinHead (front : List Char) : List (List Char) → List (List Char)
  | [] => [front]
  | piece :: pieces => (front ++ piece) :: pieces

theorem segmentsFrom_append (passed : Passes d cs e) (rest : List Char) :
    segmentsFrom d (cs ++ rest) = (segmentsFrom e rest).map (joinHead cs) := by
  induction cs generalizing d with
  | nil =>
      rw [Passes] at passed
      rw [List.nil_append, passed]
      cases found : segmentsFrom e rest with
      | none => rfl
      | some pieces =>
          cases pieces with
          | nil => exact absurd rfl (segmentsFrom_ne_nil found)
          | cons piece pieces => rfl
  | cons c cs ih =>
      rw [List.cons_append, segmentsFrom, if_neg passed.1, ih passed.2, Option.map_map]
      refine congrArg (Option.map · _) (funext fun pieces => ?_)
      cases pieces with
      | nil => rfl
      | cons piece pieces => rfl

/-! ### Closed texts -/

/-- **A closed text** is passed at every depth from zero on, and the depth behind it
is the one before it. -/
def IsClosed (cs : List Char) : Prop :=
  ∀ d : Int, 0 ≤ d → Passes d cs d

theorem isClosed_nil : IsClosed [] := fun _ _ => rfl

theorem IsClosed.append (first : IsClosed cs) (second : IsClosed ds) : IsClosed (cs ++ ds) :=
  fun d deep => (first d deep).append (second d deep)

/-- A text without commas and angle brackets is closed. -/
theorem isClosed_of_forall (plain : ∀ c ∈ cs, c ≠ ',' ∧ c ≠ '<' ∧ c ≠ '>') : IsClosed cs := by
  intro d deep
  induction cs with
  | nil => rfl
  | cons c cs ih =>
      obtain ⟨noComma, noOpening, noClosing⟩ := plain c List.mem_cons_self
      refine ⟨fun cut => noComma cut.1, ?_⟩
      have flat : d + depthStep c = d := by
        rw [depthStep, if_neg noOpening, if_neg noClosing, Int.add_zero]
      rw [flat]
      exact ih fun c member => plain c (List.mem_cons_of_mem _ member)

theorem isClosed_of_all (plain : (cs.all fun c => !([',', '<', '>'].contains c)) = true) :
    IsClosed cs := by
  refine isClosed_of_forall fun c member => ?_
  have other := List.all_eq_true.mp plain c member
  simp only [List.contains_eq_mem, Bool.not_eq_true', decide_eq_false_iff_not, List.mem_cons,
    List.not_mem_nil, or_false, not_or] at other
  exact other

/-- Between brackets, commas are passed as well. -/
theorem passes_intercalate (closed : ∀ segment ∈ segments, IsClosed segment) (deep : 0 < d) :
    Passes d ([','].intercalate segments) d := by
  induction segments with
  | nil => exact rfl
  | cons segment rest ih =>
      have here : Passes d segment d := closed segment List.mem_cons_self d (Int.le_of_lt deep)
      have later := ih fun s member => closed s (List.mem_cons_of_mem _ member)
      cases rest with
      | nil => rwa [List.intercalate_singleton]
      | cons next rest =>
          rw [List.intercalate_cons_cons]
          have comma : Passes d [','] d := ⟨fun cut => Int.ne_of_gt deep cut.2, Int.add_zero d⟩
          exact (here.append comma).append later

/-- **Closed texts between angle brackets** make up a closed text. -/
theorem IsClosed.angles (closed : ∀ segment ∈ segments, IsClosed segment) :
    IsClosed ('<' :: ([','].intercalate segments ++ ['>'])) := by
  intro d deep
  refine ⟨fun cut => absurd cut.1 (by decide), ?_⟩
  have opened : d + depthStep '<' = d + 1 := rfl
  have shut : Passes (d + 1) ['>'] d := by
    refine ⟨fun cut => absurd cut.1 (by decide), ?_⟩
    rw [Passes, show depthStep '>' = -1 from rfl]
    omega
  rw [opened]
  exact (passes_intercalate closed (by omega)).append shut

/-! ### Argument lists -/

/-- Texts that are passed at depth zero, with commas between them, are the segments of
the whole. -/
theorem segmentsFrom_intercalate_of_passes (some : segments ≠ [])
    (passed : ∀ segment ∈ segments, Passes 0 segment 0) :
    segmentsFrom 0 ([','].intercalate segments) = .some segments := by
  induction segments with
  | nil => exact absurd rfl some
  | cons segment rest ih =>
      have here := passed segment List.mem_cons_self
      cases rest with
      | nil =>
          have whole := segmentsFrom_append here []
          rw [List.append_nil] at whole
          rw [List.intercalate_singleton, whole, segmentsFrom, if_pos rfl, Option.map_some,
            joinHead, List.append_nil]
      | cons next rest =>
          have later := ih (List.cons_ne_nil next rest) fun s member =>
            passed s (List.mem_cons_of_mem _ member)
          rw [List.intercalate_cons_cons, List.append_assoc, segmentsFrom_append here,
            List.singleton_append, segmentsFrom, if_pos ⟨rfl, rfl⟩, later, Option.map_some,
            Option.map_some, joinHead, List.append_nil]

/-- Closed texts with commas between them are the segments of the whole. -/
theorem segmentsFrom_intercalate (some : segments ≠ [])
    (closed : ∀ segment ∈ segments, IsClosed segment) :
    segmentsFrom 0 ([','].intercalate segments) = .some segments :=
  segmentsFrom_intercalate_of_passes some fun segment member =>
    closed segment member 0 (Int.le_refl 0)

/-- **An argument list is taken apart into its arguments**, but for a blank last
one. -/
theorem splitArguments_intercalate (some : segments ≠ [])
    (closed : ∀ segment ∈ segments, IsClosed segment) :
    splitArguments ([','].intercalate segments) = .some (dropBlankLast segments) := by
  rw [splitArguments, segmentsFrom_intercalate some closed, Option.map_some]

/-- The segments with commas between them make up the text. -/
theorem intercalate_of_segmentsFrom (found : segmentsFrom d text = some segments) :
    [','].intercalate segments = text := by
  induction text generalizing d segments with
  | nil =>
      rw [segmentsFrom] at found
      split at found
      · cases found
        rfl
      · cases found
  | cons c rest ih =>
      rw [segmentsFrom] at found
      split at found
      · next cut =>
          obtain ⟨later, below, rfl⟩ := Option.map_eq_some_iff.mp found
          rw [List.intercalate_cons_of_ne_nil (segmentsFrom_ne_nil below), ih below, cut.1]
          rfl
      · obtain ⟨later, below, rfl⟩ := Option.map_eq_some_iff.mp found
        have parts := ih below
        cases later with
        | nil => exact absurd rfl (segmentsFrom_ne_nil below)
        | cons piece pieces =>
            rw [← parts, Text.consHead]
            cases pieces with
            | nil => rfl
            | cons next pieces => rw [List.intercalate_cons_cons, List.intercalate_cons_cons]; rfl

theorem dropBlankLast_of_last
    (visible : ∀ last ∈ segments.getLast?, ¬ Text.isBlankText last = true) :
    dropBlankLast segments = segments := by
  rw [dropBlankLast]
  split
  · next last found => rw [if_neg (visible last found)]
  · rfl

theorem dropBlankLast_singleton (segment : List Char) :
    dropBlankLast [segment] = if Text.isBlankText segment then [] else [segment] := rfl

theorem dropBlankLast_cons_cons (first next : List Char) (rest : List (List Char)) :
    dropBlankLast (first :: next :: rest) = first :: dropBlankLast (next :: rest) := by
  rw [dropBlankLast, dropBlankLast, List.getLast?_cons_cons]
  split
  · split
    · rfl
    · rfl
  · rfl

theorem dropBlankLast_concat (segments : List (List Char)) {last : List Char}
    (blank : Text.isBlankText last = true) : dropBlankLast (segments ++ [last]) = segments := by
  rw [dropBlankLast, List.getLast?_concat]
  dsimp only
  rw [if_pos blank, List.dropLast_concat]

/-- What is dropped from the end of some segments is one blank segment, if anything. -/
theorem exists_dropBlankLast_append (segments : List (List Char)) :
    ∃ closing, segments = dropBlankLast segments ++ closing ∧
      (closing = [] ∨ ∃ last, Text.isBlankText last = true ∧ closing = [last]) := by
  rw [dropBlankLast]
  split
  · next last found =>
      split
      · next blank =>
          refine ⟨[last], ?_, .inr ⟨last, blank, rfl⟩⟩
          exact (List.dropLast_append_getLast? last found).symm
      · exact ⟨[], (List.append_nil _).symm, .inl rfl⟩
  · exact ⟨[], (List.append_nil _).symm, .inl rfl⟩

/-- **Every text that can be taken apart is an argument list**: its arguments, and
possibly a blank text behind the last comma, with commas between them. -/
theorem exists_of_splitArguments {arguments : List (List Char)}
    (found : splitArguments text = some arguments) :
    ∃ closing, arguments ++ closing ≠ [] ∧
      text = [','].intercalate (arguments ++ closing) ∧
      (closing = [] ∨ ∃ last, Text.isBlankText last = true ∧ closing = [last]) := by
  obtain ⟨segments, whole, rfl⟩ := Option.map_eq_some_iff.mp found
  obtain ⟨closing, parts, blank⟩ := exists_dropBlankLast_append segments
  refine ⟨closing, ?_, ?_, blank⟩
  · rw [← parts]
    exact segmentsFrom_ne_nil whole
  · rw [← parts]
    exact (intercalate_of_segmentsFrom whole).symm

end JavaScaffold
