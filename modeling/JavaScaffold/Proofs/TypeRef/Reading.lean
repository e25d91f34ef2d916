import JavaScaffold.Proofs.Text.Split
import JavaScaffold.Proofs.Text.Trim
import JavaScaffold.Proofs.TypeRef.Depth
import JavaScaffold.TypeRef.Reader

/-!
# What reading a specification does

A specification is read by one of three rules: a leading question mark makes a
wildcard of what follows it, a text without brackets is a name, and a text with
brackets is a name with arguments.  This module says for each rule when it applies
and what it gives, and that nothing else is ever read.

## Main Definitions

* `BoundForm` — the two forms of a wildcard with a bound, and the words for them

## Main Statements

* `TypeRef.read_of_wildcard`, `TypeRef.read_of_plain`, `TypeRef.read_of_generic` —
  the three rules
* `TypeRef.read_cases` — what has been read was read by one of them
* `TypeRef.read_blanks_append` — blanks in front of a specification do not matter
-/

namespace JavaScaffold

variable {spec text bound name arguments trailing front back rest : List Char}
  {segments : List (List Char)}

/-! ### Results -/

/-- A result for which something can be decided is there. -/
theorem exists_eq_ok {ε α : Type} {x : Except ε α} {Q : α → Prop} [DecidablePred Q]
    (decided : x.toOption.any (fun a => decide (Q a)) = true) : ∃ a, x = .ok a ∧ Q a := by
  cases x with
  | ok a => exact ⟨a, rfl, of_decide_eq_true decided⟩
  | error e => cases decided

/-! ### The outer brackets -/

namespace Bracketing

theorem of_of_not_mem (plainText : '<' ∉ spec) : of spec = plain spec := by
  rw [of, Text.splitFirst_eq_none.mpr plainText]

/-- A text is cut at the first opening and at the last closing bracket. -/
theorem of_append (noOpening : '<' ∉ name) (arguments : List Char) (noClosing : '>' ∉ trailing) :
    of (name ++ '<' :: (arguments ++ '>' :: trailing)) = generic name arguments trailing := by
  rw [of, Text.splitFirst_append_cons noOpening]
  dsimp only
  rw [Text.splitLast_append_cons arguments noClosing]

/-- No opening bracket stands before the arguments, and no closing one behind them. -/
theorem not_mem_of_eq_generic (cut : of spec = generic name arguments trailing) :
    '<' ∉ name ∧ '>' ∉ trailing := by
  rw [of] at cut
  split at cut
  · cases cut
  · next first =>
      split at cut
      · cases cut
      · next last =>
          cases cut
          exact ⟨(Text.splitFirst_eq_some first).2, (Text.splitLast_eq_some last).2⟩

theorem eq_of_eq_plain (cut : of spec = plain name) : name = spec ∧ '<' ∉ spec := by
  rw [of] at cut
  split at cut
  · next absent =>
      cases cut
      exact ⟨rfl, Text.splitFirst_eq_none.mp absent⟩
  · split at cut
    · cases cut
    · cases cut

/-- An unclosed text has an opening bracket and no closing one behind it. -/
theorem exists_of_eq_unclosed (cut : of spec = unclosed) :
    ∃ name rest, spec = name ++ '<' :: rest ∧ '<' ∉ name ∧ '>' ∉ rest := by
  rw [of] at cut
  split at cut
  · cases cut
  · next name rest first =>
      split at cut
      · next absent =>
          obtain ⟨parts, noOpening⟩ := Text.splitFirst_eq_some first
          exact ⟨name, rest, parts, noOpening, Text.splitLast_eq_none.mp absent⟩
      · cases cut

theorem of_opening (noOpening : '<' ∉ name) (noClosing : '>' ∉ rest) :
    of (name ++ '<' :: rest) = unclosed := by
  rw [of, Text.splitFirst_append_cons noOpening]
  dsimp only
  rw [Text.splitLast_eq_none.mpr noClosing]

/-- The cut of a text that stands between two texts without brackets. -/
def around (front back : List Char) : Bracketing → Bracketing
  | plain name => plain (front ++ name ++ back)
  | unclosed => unclosed
  | generic name arguments trailing => generic (front ++ name) arguments (trailing ++ back)

/-- **What stands around the brackets** does not change where a text is cut. -/
theorem of_around (plainFront : '<' ∉ front) (spec : List Char) (plainBack : '<' ∉ back)
    (noClosing : '>' ∉ back) : of (front ++ spec ++ back) = (of spec).around front back := by
  have unopened : ∀ name : List Char, '<' ∉ name → '<' ∉ front ++ name := fun name free =>
    List.not_mem_append plainFront free
  cases cut : of spec with
  | plain name =>
      obtain ⟨rfl, plainText⟩ := eq_of_eq_plain cut
      exact of_of_not_mem (List.not_mem_append (unopened name plainText) plainBack)
  | unclosed =>
      obtain ⟨name, rest, rfl, plainName, unclosedRest⟩ := exists_of_eq_unclosed cut
      rw [← List.append_assoc, List.append_assoc _ _ back, List.cons_append]
      exact of_opening (unopened name plainName) (List.not_mem_append unclosedRest noClosing)
  | generic name arguments trailing =>
      obtain ⟨plainName, plainTrailing⟩ := not_mem_of_eq_generic cut
      rw [of_eq_generic cut, ← List.append_assoc, List.append_assoc _ _ back, List.cons_append,
        List.append_assoc arguments, List.cons_append]
      exact of_append (unopened name plainName) arguments
        (List.not_mem_append plainTrailing noClosing)

/-- Blanks around a text do not change where it is cut. -/
theorem of_pad (blankFront : Text.isBlankText front = true) (spec : List Char)
    (blankBack : Text.isBlankText back = true) :
    of (front ++ spec ++ back) = (of spec).around front back :=
  of_around (Text.not_mem_of_isBlankText blankFront rfl) spec
    (Text.not_mem_of_isBlankText blankBack rfl) (Text.not_mem_of_isBlankText blankBack rfl)

end Bracketing

/-! ### Wildcards -/

/-- The two forms of a wildcard that has a bound. -/
inductive BoundForm
  | upper
  | lower
  deriving DecidableEq

namespace BoundForm

/-- The wildcard of a form. -/
def wildcard : BoundForm → Wildcard
  | upper => .upper
  | lower => .lower

/-- The word in front of the bound, with the blank behind it. -/
def word : BoundForm → String
  | upper => "extends "
  | lower => "super "

end BoundForm

namespace TypeRef

variable {t : TypeRef} {ts : List TypeRef} {w : Wildcard}

theorem afterFront?_eq_some_iff :
    afterFront? front text = some rest ↔ text = front ++ rest := by
  rw [afterFront?]
  constructor
  · intro found
    split at found
    · next isFront =>
        cases found
        obtain ⟨back, rfl⟩ := List.isPrefixOf_iff_prefix.mp isFront
        rw [List.drop_left]
    · cases found
  · rintro rfl
    rw [if_pos (List.isPrefixOf_iff_prefix.mpr ⟨rest, rfl⟩), List.drop_left]

theorem afterFront?_eq_none_iff :
    afterFront? front text = none ↔ ∀ rest, text ≠ front ++ rest := by
  rw [Option.eq_none_iff_forall_ne_some]
  exact forall_congr' fun rest => not_congr afterFront?_eq_some_iff

/-- A specification is a wildcard when it starts with a question mark. -/
theorem wildcardOf?_eq_none_iff : wildcardOf? text = none ↔ text.head? ≠ some '?' := by
  unfold wildcardOf?
  split
  · next rest =>
      refine ⟨fun never => ?_, fun other => absurd rfl other⟩
      split at never
      · cases never
      · split at never
        · cases never
        · cases never
  · next other =>
      refine ⟨fun _ marked => ?_, fun _ => rfl⟩
      cases text with
      | nil => cases marked
      | cons c rest =>
          cases marked
          exact other rest rfl

/-- A word behind the question mark makes a wildcard with a bound. -/
theorem wildcardOf?_of_word (form : BoundForm)
    (behind : Text.trim rest = form.word.toList ++ bound) :
    wildcardOf? ('?' :: rest) = some (form.wildcard, bound) := by
  cases form with
  | upper =>
      rw [BoundForm.word] at behind
      rw [wildcardOf?, afterFront?_eq_some_iff.mpr behind, BoundForm.wildcard]
  | lower =>
      rw [BoundForm.word] at behind
      have notUpper : afterFront? "extends ".toList (Text.trim rest) = none := by
        rw [behind, afterFront?, if_neg]
        exact Bool.false_ne_true
      rw [wildcardOf?, notUpper, afterFront?_eq_some_iff.mpr behind, BoundForm.wildcard]

/-- Without such a word, what follows the question mark is the hidden name of an
unbounded wildcard. -/
theorem wildcardOf?_of_forall_ne
    (noWord : ∀ (form : BoundForm) (bound : List Char),
      Text.trim rest ≠ form.word.toList ++ bound) :
    wildcardOf? ('?' :: rest) = some (.unbounded, Text.trim rest) := by
  have notUpper := noWord .upper
  have notLower := noWord .lower
  rw [BoundForm.word] at notUpper
  rw [BoundForm.word] at notLower
  rw [wildcardOf?, afterFront?_eq_none_iff.mpr notUpper, afterFront?_eq_none_iff.mpr notLower]

/-- **What a wildcard is made of.** -/
theorem wildcardOf?_cases (marked : wildcardOf? text = some (w, bound)) :
    ∃ rest, text = '?' :: rest ∧
      ((∃ form : BoundForm, w = form.wildcard ∧ Text.trim rest = form.word.toList ++ bound) ∨
        (w = .unbounded ∧ bound = Text.trim rest ∧
          ∀ (form : BoundForm) (b : List Char), Text.trim rest ≠ form.word.toList ++ b)) := by
  have isMark : text.head? = some '?' := by
    by_contra other
    rw [wildcardOf?_eq_none_iff.mpr other] at marked
    cases marked
  obtain ⟨rest, rfl⟩ := List.head?_eq_some_iff.mp isMark
  refine ⟨rest, rfl, ?_⟩
  by_cases worded : ∃ (form : BoundForm) (b : List Char), Text.trim rest = form.word.toList ++ b
  · obtain ⟨form, b, behind⟩ := worded
    rw [wildcardOf?_of_word form behind] at marked
    cases marked
    exact .inl ⟨form, rfl, behind⟩
  · have noWord : ∀ (form : BoundForm) (b : List Char), Text.trim rest ≠ form.word.toList ++ b :=
      fun form b behind => worded ⟨form, b, behind⟩
    rw [wildcardOf?_of_forall_ne noWord] at marked
    cases marked
    exact .inr ⟨rfl, rfl, noWord⟩

/-- A wildcard is its bound with text around it that holds no opening bracket. -/
theorem exists_around_bound (marked : wildcardOf? (Text.trim spec) = some (w, bound)) :
    ∃ front back, '<' ∉ front ∧ Text.isBlankText back = true ∧ spec = front ++ bound ++ back := by
  obtain ⟨rest, shape, form⟩ := wildcardOf?_cases marked
  obtain ⟨word, plainWord, behind⟩ : ∃ word, '<' ∉ word ∧ Text.trim rest = word ++ bound := by
    rcases form with ⟨form, -, behind⟩ | ⟨-, rfl, -⟩
    · exact ⟨form.word.toList, by cases form <;> decide, behind⟩
    · exact ⟨[], List.not_mem_nil, rfl⟩
  obtain ⟨pre, post, blankPre, blankPost, parts⟩ := Text.exists_pads spec
  obtain ⟨front, back, blankFront, blankBack, inner⟩ := Text.exists_pads rest
  refine ⟨pre ++ '?' :: (front ++ word), back ++ post, ?_, ?_, ?_⟩
  · refine List.not_mem_append (Text.not_mem_of_isBlankText blankPre rfl) ?_
    rw [List.mem_cons, not_or]
    exact ⟨by decide, List.not_mem_append (Text.not_mem_of_isBlankText blankFront rfl) plainWord⟩
  · rw [Text.isBlankText, List.all_append, Bool.and_eq_true]
    exact ⟨blankBack, blankPost⟩
  · rw [parts, shape, inner, behind]
    simp only [List.cons_append, List.append_assoc]

/-! ### Names -/

/-- The qualified name of a node that has been made from a text is that text without
the blanks around it. -/
theorem toList_qualifiedName_ofName (name : List Char) :
    (TypeNode.ofName name).qualifiedName.toList = Text.trim name := by
  rw [TypeNode.ofName]
  split
  · next front back found =>
      rw [(Text.splitLast_eq_some found).1, TypeNode.qualifiedName]
      dsimp only
      rw [String.toList_append, String.toList_append, String.toList_ofList, String.toList_ofList,
        List.append_assoc]
      exact congrArg (front ++ ·) (congrArg (['.'] ++ ·) String.toList_ofList)
  · exact String.toList_ofList

theorem ofName_congr {other : List Char} (same : Text.trim name = Text.trim other) :
    TypeNode.ofName name = TypeNode.ofName other := by
  rw [TypeNode.ofName, TypeNode.ofName, same]

/-- A node that has been made from a name has no wildcard. -/
theorem wildcard_ofName (name : List Char) : (TypeNode.ofName name).wildcard = none := by
  rw [TypeNode.ofName]
  split
  · rfl
  · rfl

theorem brackets_ofName (name : List Char) : (TypeNode.ofName name).brackets = "" := by
  rw [TypeNode.ofName]
  split
  · rfl
  · rfl

/-! ### The three rules -/

/-- A wildcard is its bound with a question mark. -/
theorem read_of_wildcard (marked : wildcardOf? (Text.trim spec) = some (w, bound)) :
    read spec = (read bound).map fun t => { t with wildcard := some w } := by
  rw [read]
  split
  · next found =>
      cases marked.symm.trans found
      cases read bound with
      | error cause => rfl
      | ok t => rfl
  · next found =>
      rw [marked] at found
      cases found

/-- A text without brackets is a name. -/
theorem read_of_plain (unmarked : wildcardOf? (Text.trim spec) = none)
    (cut : Bracketing.of spec = .plain name) :
    read spec =
      .ok { TypeNode.ofName name with args := [], isArray := endsInBracket spec } := by
  rw [read]
  split
  · next found =>
      rw [unmarked] at found
      cases found
  · split
    · next found =>
        cases cut.symm.trans found
        rfl
    · next found => cases cut.symm.trans found
    · next found => cases cut.symm.trans found

/-- The empty text is an empty name. -/
theorem read_nil :
    read [] = .ok { TypeNode.ofName [] with args := [], isArray := endsInBracket [] } :=
  read_of_plain rfl rfl

theorem read_of_unclosed (unmarked : wildcardOf? (Text.trim spec) = none)
    (cut : Bracketing.of spec = .unclosed) :
    read spec = .error (.unclosed (String.ofList (Text.trim spec))) := by
  rw [read]
  split
  · next found =>
      rw [unmarked] at found
      cases found
  · split
    · next found => cases cut.symm.trans found
    · rfl
    · next found => cases cut.symm.trans found

theorem read_of_unbalanced (unmarked : wildcardOf? (Text.trim spec) = none)
    (cut : Bracketing.of spec = .generic name arguments trailing)
    (unbalanced : splitArguments arguments = none) :
    read spec = .error (.unbalanced (String.ofList (Text.trim spec))) := by
  rw [read]
  split
  · next found =>
      rw [unmarked] at found
      cases found
  · split
    · next found => cases cut.symm.trans found
    · next found => cases cut.symm.trans found
    · next found =>
        cases cut.symm.trans found
        split
        · rfl
        · next split =>
            rw [unbalanced] at split
            cases split

/-- A text with brackets is a name with the arguments between them. -/
theorem read_of_generic (unmarked : wildcardOf? (Text.trim spec) = none)
    (cut : Bracketing.of spec = .generic name arguments trailing)
    (balanced : splitArguments arguments = some segments) :
    read spec = (readAll segments).map fun args =>
      { TypeNode.ofName name with
        args := args, brackets := bracketsOf trailing, isArray := endsInBracket spec } := by
  rw [read]
  split
  · next found =>
      rw [unmarked] at found
      cases found
  · split
    · next found => cases cut.symm.trans found
    · next found => cases cut.symm.trans found
    · next found =>
        cases cut.symm.trans found
        split
        · next split =>
            rw [balanced] at split
            cases split
        · next split =>
            cases balanced.symm.trans split
            cases readAll segments with
            | error cause => rfl
            | ok args => rfl

/-- **What has been read** was read by one of the three rules. -/
theorem read_cases (done : read spec = .ok t) :
    (∃ w bound b, wildcardOf? (Text.trim spec) = some (w, bound) ∧ read bound = .ok b ∧
        t = { b with wildcard := some w }) ∨
      (wildcardOf? (Text.trim spec) = none ∧ '<' ∉ spec ∧
        t = { TypeNode.ofName spec with args := [], isArray := endsInBracket spec }) ∨
      (wildcardOf? (Text.trim spec) = none ∧ ∃ name arguments trailing segments args,
        Bracketing.of spec = .generic name arguments trailing ∧
        splitArguments arguments = some segments ∧ readAll segments = .ok args ∧
        t = { TypeNode.ofName name with
          args := args, brackets := bracketsOf trailing, isArray := endsInBracket spec }) := by
  cases marked : wildcardOf? (Text.trim spec) with
  | some found =>
      obtain ⟨w, bound⟩ := found
      rw [read_of_wildcard marked] at done
      cases inner : read bound with
      | error cause =>
          rw [inner] at done
          cases done
      | ok b =>
          rw [inner] at done
          cases done
          exact .inl ⟨w, bound, b, rfl, inner, rfl⟩
  | none =>
      cases cut : Bracketing.of spec with
      | plain name =>
          rw [read_of_plain marked cut] at done
          cases done
          obtain ⟨rfl, plainText⟩ := Bracketing.eq_of_eq_plain cut
          exact .inr (.inl ⟨rfl, plainText, rfl⟩)
      | unclosed =>
          rw [read_of_unclosed marked cut] at done
          cases done
      | generic name arguments trailing =>
          cases balanced : splitArguments arguments with
          | none =>
              rw [read_of_unbalanced marked cut balanced] at done
              cases done
          | some segments =>
              rw [read_of_generic marked cut balanced] at done
              cases inner : readAll segments with
              | error cause =>
                  rw [inner] at done
                  cases done
              | ok args =>
                  rw [inner] at done
                  cases done
                  exact .inr (.inr
                    ⟨rfl, name, arguments, trailing, segments, args, rfl, balanced, inner, rfl⟩)

/-- A list is read by reading each of its texts. -/
theorem readAll_eq_ok_iff :
    readAll segments = .ok ts ↔ List.Forall₂ (fun s t => read s = .ok t) segments ts := by
  induction segments generalizing ts with
  | nil =>
      rw [readAll]
      constructor
      · intro done
        cases done
        exact .nil
      · intro all
        cases all
        rfl
  | cons segment rest ih =>
      rw [readAll]
      cases first : read segment with
      | error cause =>
          refine ⟨fun done => ?_, fun all => ?_⟩
          · cases done
          · cases all with
            | cons here _ =>
                rw [first] at here
                cases here
      | ok t =>
          cases others : readAll rest with
          | error cause =>
              refine ⟨fun done => ?_, fun all => ?_⟩
              · cases done
              · cases all with
                | cons _ later =>
                    rw [ih.mpr later] at others
                    cases others
          | ok us =>
              constructor
              · intro done
                cases done
                exact .cons first (ih.mp others)
              · intro all
                cases all with
                | cons here later =>
                    cases first.symm.trans here
                    cases others.symm.trans (ih.mpr later)
                    rfl

/-! ### Blanks in front -/

theorem endsInBracket_blanks_append (blank : Text.isBlankText front = true) (text : List Char) :
    endsInBracket (front ++ text) = endsInBracket text := by
  rw [endsInBracket, endsInBracket, List.getLast?_append]
  cases last : text.getLast? with
  | some c => rfl
  | none =>
      -- A blank at the end is no bracket.
      rw [Option.none_or]
      cases lastBlank : front.getLast? with
      | none => rfl
      | some c =>
          have other : c ≠ ']' := by
            rintro rfl
            exact Text.not_mem_of_isBlankText blank rfl (List.mem_of_getLast? lastBlank)
          rw [beq_eq_false_iff_ne.mpr fun same => other (Option.some.inj same)]
          rfl

/-- **Blanks in front of a specification** do not change what is read. -/
theorem read_blanks_append (blank : Text.isBlankText front = true) (text : List Char) :
    read (front ++ text) = read text := by
  have same := Text.trim_blanks_append blank text
  have cutWhole : Bracketing.of (front ++ text ++ []) = (Bracketing.of text).around front [] :=
    Bracketing.of_pad blank text rfl
  rw [List.append_nil] at cutWhole
  cases marked : wildcardOf? (Text.trim text) with
  | some found =>
      rw [read_of_wildcard (same ▸ marked), read_of_wildcard marked]
  | none =>
      have unmarked : wildcardOf? (Text.trim (front ++ text)) = none := same ▸ marked
      cases cut : Bracketing.of text with
      | plain name =>
          rw [cut, Bracketing.around, List.append_nil] at cutWhole
          have sameName := Text.trim_blanks_append blank name
          rw [read_of_plain marked cut, read_of_plain unmarked cutWhole, ofName_congr sameName,
            endsInBracket_blanks_append blank]
      | unclosed =>
          rw [cut, Bracketing.around] at cutWhole
          rw [read_of_unclosed marked cut, read_of_unclosed unmarked cutWhole, same]
      | generic name arguments trailing =>
          rw [cut, Bracketing.around, List.append_nil] at cutWhole
          have sameName := Text.trim_blanks_append blank name
          cases balanced : splitArguments arguments with
          | none =>
              rw [read_of_unbalanced marked cut balanced,
                read_of_unbalanced unmarked cutWhole balanced, same]
          | some segments =>
              rw [read_of_generic marked cut balanced,
                read_of_generic unmarked cutWhole balanced, ofName_congr sameName,
                endsInBracket_blanks_append blank]

end TypeRef

end JavaScaffold
