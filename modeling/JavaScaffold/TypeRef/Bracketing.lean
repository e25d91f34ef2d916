import JavaScaffold.Text.Blank
import JavaScaffold.Text.Split

/-!
# The angle brackets of a type specification

A specification such as `java.util.Map<K, V>[]` is cut at its first `<` and its last `>`.  The text
between them is cut at the commas that stand outside all inner brackets.

## Main Definitions

* `Bracketing`, `Bracketing.of` — a specification cut at its outer brackets
* `splitArguments` — the text between the brackets cut at its outer commas

## Design Notes

The depth of a position is the number of `<` minus the number of `>` before it.  It is an integer
and may be negative, as in `b>,c<d`, where the comma has depth -1.
-/

namespace JavaScaffold

/-- A type specification cut at its outer angle brackets. -/
inductive Bracketing
  /-- There is no `<`. -/
  | plain (name : List Char)
  /-- No `>` follows the first `<`. -/
  | unclosed
  /-- The name before the first `<`, the text up to the last `>`, and the text after it. -/
  | generic (name arguments trailing : List Char)
  deriving Repr, DecidableEq

namespace Bracketing

/-- Cuts a specification at its outer angle brackets. -/
def of (spec : List Char) : Bracketing :=
  match Text.splitFirst '<' spec with
  | none => plain spec
  | some (name, rest) =>
    match Text.splitLast '>' rest with
    | none => unclosed
    | some (arguments, trailing) => generic name arguments trailing

theorem of_eq_generic {spec name arguments trailing : List Char}
    (h : of spec = generic name arguments trailing) :
    spec = name ++ '<' :: (arguments ++ '>' :: trailing) := by
  simp only [of] at h
  split at h
  · simp at h
  · next hf =>
    split at h
    · simp at h
    · next hl =>
      obtain ⟨rfl, rfl, rfl⟩ := Bracketing.generic.inj h
      rw [(Text.splitFirst_eq_some hf).1, (Text.splitLast_eq_some hl).1]

/-- The text between the brackets is shorter than the specification by both brackets at least. -/
theorem length_arguments_lt {spec name arguments trailing : List Char}
    (h : of spec = generic name arguments trailing) : arguments.length + 1 < spec.length := by
  rw [of_eq_generic h]
  simp only [List.length_append, List.length_cons]
  omega

end Bracketing

/-- The change of depth at a character. -/
def depthStep (c : Char) : Int :=
  if c = '<' then 1 else if c = '>' then -1 else 0

/-- The segments of a text that starts at the given depth, cut at the commas of depth zero.  There
is none when the text does not end at depth zero. -/
def segmentsFrom (depth : Int) : List Char → Option (List (List Char))
  | [] => if depth = 0 then some [[]] else none
  | c :: rest =>
    if c = ',' ∧ depth = 0 then (segmentsFrom depth rest).map ([] :: ·)
    else (segmentsFrom (depth + depthStep c) rest).map (Text.consHead c)

/-- The list `segments` without the last one, when that one is blank. -/
def dropBlankLast (segments : List (List Char)) : List (List Char) :=
  match segments.getLast? with
  | some last => if Text.isBlankText last then segments.dropLast else segments
  | none => segments

/-- The arguments written in the text between two angle brackets, blanks included, or nothing when
the brackets in it are not balanced.  A blank last argument does not count. -/
def splitArguments (text : List Char) : Option (List (List Char)) :=
  (segmentsFrom 0 text).map dropBlankLast

/-! ### Lengths -/

/-- The number of characters in some segments, each segment counting for one more. -/
def spread : List (List Char) → Nat
  | [] => 0
  | segment :: rest => segment.length + 1 + spread rest

theorem segmentsFrom_ne_nil {depth : Int} {text : List Char} {segments : List (List Char)}
    (h : segmentsFrom depth text = some segments) : segments ≠ [] := by
  cases text with
  | nil =>
    simp only [segmentsFrom] at h
    split at h
    · simp [← Option.some.inj h]
    · simp at h
  | cons c rest =>
    simp only [segmentsFrom] at h
    split at h
    · obtain ⟨s, -, rfl⟩ := Option.map_eq_some_iff.1 h
      simp
    · obtain ⟨s, -, rfl⟩ := Option.map_eq_some_iff.1 h
      cases s <;> simp [Text.consHead]

/-- The segments and the commas between them take up the whole text. -/
theorem spread_segmentsFrom {depth : Int} {text : List Char} {segments : List (List Char)}
    (h : segmentsFrom depth text = some segments) : spread segments = text.length + 1 := by
  induction text generalizing depth segments with
  | nil =>
    simp only [segmentsFrom] at h
    split at h
    · simp [← Option.some.inj h, spread]
    · simp at h
  | cons c rest ih =>
    simp only [segmentsFrom] at h
    split at h
    · obtain ⟨s, hs, rfl⟩ := Option.map_eq_some_iff.1 h
      have := ih hs
      simp only [spread, List.length_nil, List.length_cons] at this ⊢
      omega
    · obtain ⟨s, hs, rfl⟩ := Option.map_eq_some_iff.1 h
      have := ih hs
      have hne := segmentsFrom_ne_nil hs
      cases s with
      | nil => exact absurd rfl hne
      | cons segment rest' =>
        simp only [Text.consHead, spread, List.length_cons] at this ⊢
        omega

theorem spread_dropLast_le (segments : List (List Char)) :
    spread segments.dropLast ≤ spread segments := by
  induction segments with
  | nil => simp [spread]
  | cons segment rest ih =>
    cases rest with
    | nil => simp [spread]
    | cons s r =>
      simp only [List.dropLast_cons_cons, spread] at ih ⊢
      omega

theorem spread_dropBlankLast_le (segments : List (List Char)) :
    spread (dropBlankLast segments) ≤ spread segments := by
  unfold dropBlankLast
  split
  · split
    · exact spread_dropLast_le segments
    · exact Nat.le_refl _
  · exact Nat.le_refl _

/-- The arguments take up no more room than the text they were cut from. -/
theorem spread_splitArguments_le {text : List Char} {segments : List (List Char)}
    (h : splitArguments text = some segments) : spread segments ≤ text.length + 1 := by
  obtain ⟨s, hs, rfl⟩ := Option.map_eq_some_iff.1 h
  exact Nat.le_trans (spread_dropBlankLast_le s) (Nat.le_of_eq (spread_segmentsFrom hs))

end JavaScaffold
