import JavaScaffold.Proofs.Text.Split
import JavaScaffold.Proofs.TypeRef.Commas

/-!
# Nothing is lost between the brackets

The text between two angle brackets is taken apart at the commas that stand outside all
inner brackets.  This module says what becomes of a text as a whole, by counting brackets
and without reference to the cutting: which texts can be taken apart, what the parts are
like, and what is missing when they are put together again.

## Main Definitions

* `IsBalanced` — a text with as many opening as closing brackets
* `IsCut`, `IsUncut` — the places where a text is cut, and texts without any

## Main Statements

* `splitArguments_eq_none_iff` — the texts that cannot be taken apart
* `segmentsFrom_cases` — the text before the last part, and that part
* `splitArguments_lossless` — the whole of the cutting

## Design Notes

Balanced does not mean well nested: in `b>,c<d` the bracket that closes comes first, and
the comma is no place to cut, because there are more closing than opening brackets before
it.  The text is one argument.
-/

namespace JavaScaffold

variable {text front back : List Char} {segments : List (List Char)} {d : Int}

/-! ### Counting brackets -/

/-- **A balanced text** has as many opening as closing brackets, in whatever order. -/
def IsBalanced (text : List Char) : Prop :=
  text.count '<' = text.count '>'

/-- **A text is cut** between `front` and `back`: a comma stands there, and the text in
front of it is balanced. -/
structure IsCut (text front back : List Char) : Prop where
  parts : text = front ++ ',' :: back
  balanced : IsBalanced front

/-- **An uncut text** has no comma where it is cut. -/
def IsUncut (text : List Char) : Prop :=
  ∀ front back, ¬ IsCut text front back

/-- The depth behind a text is a difference of two numbers of brackets. -/
theorem depth_eq_count (text : List Char) :
    depth text = (text.count '<' : Int) - text.count '>' := by
  induction text with
  | nil => rfl
  | cons c cs ih =>
      rw [depth, ih, List.count_cons, List.count_cons, depthStep]
      by_cases opening : c = '<'
      · subst opening
        simp
        omega
      · by_cases closing : c = '>'
        · subst closing
          simp
          omega
        · simp [opening, closing]

theorem isBalanced_iff : IsBalanced text ↔ depth text = 0 := by
  rw [IsBalanced, depth_eq_count]
  omega

/-- A text that is passed at depth zero is balanced. -/
theorem Passes.isBalanced (passed : Passes 0 text 0) : IsBalanced text := by
  have level := passed.depth_eq
  rw [isBalanced_iff]
  omega

/-- A text that is passed at depth zero is uncut. -/
theorem Passes.isUncut (passed : Passes 0 text 0) : IsUncut text := by
  rintro front back ⟨rfl, balanced⟩
  have level := isBalanced_iff.mp balanced
  exact passed.depth_comma_ne (by omega)

/-! ### Taking a text apart -/

theorem segmentsFrom_eq_none_iff : segmentsFrom d text = none ↔ d + depth text ≠ 0 := by
  induction text generalizing d with
  | nil =>
      rw [segmentsFrom, depth]
      split
      · next flat => simp [flat]
      · next deep => simpa using deep
  | cons c rest ih =>
      rw [segmentsFrom, depth]
      split
      · next cut =>
          rw [Option.map_eq_none_iff, ih, cut.1, depthStep_comma, Int.zero_add]
      · rw [Option.map_eq_none_iff, ih, Int.add_assoc]

/-- **The texts that cannot be taken apart** are those that are not balanced. -/
theorem splitArguments_eq_none_iff : splitArguments text = none ↔ ¬ IsBalanced text := by
  rw [splitArguments, Option.map_eq_none_iff, segmentsFrom_eq_none_iff, isBalanced_iff,
    Int.zero_add]

/-- **What stands before the last part.**  A text that is taken apart has a last part, which
is uncut.  It is the whole text, or what follows the last place where the text is cut. -/
theorem segmentsFrom_cases (found : segmentsFrom 0 text = some segments) :
    (segments = [text] ∧ IsUncut text) ∨
      ∃ initial last, initial ≠ [] ∧ segments = initial ++ [last] ∧ IsUncut last ∧
        IsCut text ([','].intercalate initial) last := by
  have whole := intercalate_of_segmentsFrom found
  obtain ⟨first, others, rfl⟩ := List.exists_cons_of_ne_nil (segmentsFrom_ne_nil found)
  have passed : ∀ s ∈ first :: others, Passes 0 s 0 :=
    List.forall_mem_cons.mpr (passes_of_segmentsFrom found)
  rcases List.eq_nil_or_concat' others with rfl | ⟨middle, last, rfl⟩
  · rw [List.intercalate_singleton] at whole
    subst whole
    exact .inl ⟨rfl, (passed first List.mem_cons_self).isUncut⟩
  · rw [← List.cons_append, Text.intercalate_concat (List.cons_ne_nil first middle)] at whole
    have lastPassed : Passes 0 last 0 := passed last (by simp)
    refine .inr ⟨first :: middle, last, List.cons_ne_nil _ _, rfl, lastPassed.isUncut, ?_, ?_⟩
    · exact whole.symm
    · -- The text and its last part are balanced, so the rest of the text is balanced too.
      have total : depth text = 0 := by
        by_contra deep
        rw [segmentsFrom_eq_none_iff.mpr (by omega)] at found
        cases found
      have lastLevel := isBalanced_iff.mp lastPassed.isBalanced
      rw [isBalanced_iff]
      rw [← whole, depth_append, depth_append, lastLevel] at total
      simpa [depth, depthStep] using total

/-- **Nothing is lost.**  A text is refused exactly when it is not balanced.  Otherwise
every argument is balanced and uncut.  If the text is uncut, it is the only argument;
else there are arguments, and with commas between them they make up the text.  A last
part that is blank is left out, with the comma in front of it. -/
theorem splitArguments_lossless (text : List Char) :
    (splitArguments text = none ↔ text.count '<' ≠ text.count '>') ∧
      ∀ segments, splitArguments text = some segments →
        (∀ segment ∈ segments, IsBalanced segment ∧ IsUncut segment) ∧
          ((IsUncut text ∧ segments = if Text.isBlankText text then [] else [text]) ∨
            ∃ front last, IsCut text front last ∧ IsUncut last ∧ segments ≠ [] ∧
              [','].intercalate segments = if Text.isBlankText last then front else text) := by
  refine ⟨splitArguments_eq_none_iff, fun segments found => ⟨fun segment member => ?_, ?_⟩⟩
  · have passed := passes_of_mem_splitArguments found member
    exact ⟨passed.isBalanced, passed.isUncut⟩
  · obtain ⟨all, cut, rfl⟩ := Option.map_eq_some_iff.mp found
    rcases segmentsFrom_cases cut with ⟨rfl, uncut⟩ | ⟨initial, last, some, rfl, uncut, place⟩
    · exact .inl ⟨uncut, dropBlankLast_singleton text⟩
    · refine .inr ⟨[','].intercalate initial, last, place, uncut, ?_⟩
      by_cases blank : Text.isBlankText last = true
      · rw [dropBlankLast_concat initial blank, if_pos blank]
        exact ⟨some, rfl⟩
      · have kept : dropBlankLast (initial ++ [last]) = initial ++ [last] := by
          refine dropBlankLast_of_last fun final isLast => ?_
          rw [List.getLast?_concat, Option.mem_some_iff] at isLast
          rwa [← isLast]
        rw [kept, if_neg blank, place.parts, Text.intercalate_concat some]
        exact ⟨by simp, rfl⟩

/-- The comma in `b>,c<d` is no place to cut, and the blank behind the last comma is left
out. -/
theorem splitArguments_lossless_crossed :
    splitArguments "b>,c<d, ".toList = some ["b>,c<d".toList] ∧
      IsBalanced "b>,c<d".toList ∧ IsUncut "b>,c<d".toList := by
  have found : splitArguments "b>,c<d, ".toList = some ["b>,c<d".toList] := by decide
  obtain ⟨-, parts⟩ := splitArguments_lossless "b>,c<d, ".toList
  obtain ⟨each, -⟩ := parts _ found
  obtain ⟨balanced, uncut⟩ := each _ List.mem_cons_self
  exact ⟨found, balanced, uncut⟩

end JavaScaffold
