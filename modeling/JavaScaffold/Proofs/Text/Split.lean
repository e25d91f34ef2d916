import Mathlib.Data.List.TakeWhile
import JavaScaffold.Text.Blank
import JavaScaffold.Text.Split

/-!
# Splitting composed texts

Where a text is put together from parts, the splits find these parts again, as
long as the separator is not hidden in the part on the wrong side of it.

## Main Statements

* `splitFirst_append_cons`, `splitLast_append_cons`, `splitAll_append`, `splitAll_intercalate` —
  splits of a composed text
* `trimEnd_append_cons` — trimming stops at a character that is not blank
* `afterLast_append`, `beforeFirst_of_not_mem` — the same on strings
-/

namespace JavaScaffold.Text

variable {c : Char} {front back : List Char} {s : String}

/-! ### Lists of characters -/

/-- A part without the separator goes to the front of a split at the first
separator. -/
theorem splitFirst_append (h : c ∉ front) (rest : List Char) :
    splitFirst c (front ++ rest) =
      (splitFirst c rest).map fun (f, b) => (front ++ f, b) := by
  induction front with
  | nil =>
      rw [List.nil_append]
      cases splitFirst c rest <;> rfl
  | cons d front ih =>
      rw [List.mem_cons, not_or] at h
      obtain ⟨differs, free⟩ := h
      rw [List.cons_append, splitFirst, if_neg (Ne.symm differs), ih free, Option.map_map]
      rfl

/-- A separator behind a part without it is the first one. -/
theorem splitFirst_append_cons (h : c ∉ front) (back : List Char) :
    splitFirst c (front ++ c :: back) = some (front, back) := by
  rw [splitFirst_append h, splitFirst, if_pos rfl, Option.map_some]
  dsimp only
  rw [List.append_nil]

/-- A separator in front of a part without it is the last one. -/
theorem splitLast_append_cons (front : List Char) (h : c ∉ back) :
    splitLast c (front ++ c :: back) = some (front, back) := by
  induction front with
  | nil => rw [List.nil_append, splitLast, splitLast_eq_none.mpr h, if_pos rfl]
  | cons d front ih => rw [List.cons_append, splitLast, ih]

theorem splitAll_of_not_mem (h : c ∉ front) : splitAll c front = [front] := by
  induction front with
  | nil => rfl
  | cons d front ih =>
      rw [List.mem_cons, not_or] at h
      rw [splitAll, if_neg (Ne.symm h.1), ih h.2, consHead]

theorem consHead_append (d : Char) {pieces : List (List Char)} (some : pieces ≠ [])
    (more : List (List Char)) : consHead d (pieces ++ more) = consHead d pieces ++ more := by
  obtain ⟨piece, pieces, rfl⟩ := List.exists_cons_of_ne_nil some
  rfl

/-- **A separator** keeps the pieces on its two sides apart. -/
theorem splitAll_append (c : Char) (front back : List Char) :
    splitAll c (front ++ c :: back) = splitAll c front ++ splitAll c back := by
  induction front with
  | nil => simp [splitAll]
  | cons d front ih =>
      rw [List.cons_append, splitAll, splitAll, ih]
      split
      · rfl
      · exact consHead_append d (splitAll_ne_nil c front) _

/-- A part without the separator, and a separator behind it, make up the first piece. -/
theorem splitAll_append_cons (h : c ∉ front) (rest : List Char) :
    splitAll c (front ++ c :: rest) = front :: splitAll c rest := by
  rw [splitAll_append, splitAll_of_not_mem h, List.singleton_append]

/-- Parts without the separator are the pieces of the text they make up. -/
theorem splitAll_intercalate {pieces : List (List Char)} (some : pieces ≠ [])
    (h : ∀ piece ∈ pieces, c ∉ piece) : splitAll c ([c].intercalate pieces) = pieces := by
  induction pieces with
  | nil => exact absurd rfl some
  | cons piece pieces ih =>
      have here := h piece List.mem_cons_self
      cases pieces with
      | nil => rw [List.intercalate_singleton, splitAll_of_not_mem here]
      | cons next pieces =>
          rw [List.intercalate_cons_cons, List.append_assoc, List.singleton_append,
            splitAll_append_cons here, ih (List.cons_ne_nil next pieces) fun p member =>
              h p (List.mem_cons_of_mem _ member)]

/-- Where a text is made of parts with something behind them, what stands in front of a
separator is made of some of the parts. -/
theorem splitAll_subset {pieces : List (List Char)} {tail : List Char} (some : pieces ≠ [])
    (h : ∀ piece ∈ pieces, c ∉ piece) (free : c ∉ tail)
    (same : front ++ c :: back = [c].intercalate pieces ++ tail) :
    splitAll c front ⊆ pieces := by
  rcases List.append_eq_append_iff.mp same with ⟨middle, whole, rest⟩ | ⟨_, _, rest⟩
  · cases middle with
    | nil =>
        rw [List.nil_append] at rest
        exact absurd (rest ▸ List.mem_cons_self) free
    | cons d middle =>
        obtain ⟨rfl, -⟩ := List.cons.inj rest
        rw [← splitAll_intercalate some h, whole, splitAll_append]
        exact List.subset_append_left _ _
  · rw [rest] at free
    exact absurd (List.mem_append_right _ List.mem_cons_self) free

/-- Every character between separators is one of a piece, or a separator. -/
theorem mem_intercalate {pieces : List (List Char)} {d : Char}
    (member : d ∈ [c].intercalate pieces) : d = c ∨ ∃ piece ∈ pieces, d ∈ piece := by
  induction pieces with
  | nil => cases member
  | cons piece pieces ih =>
      cases pieces with
      | nil =>
          rw [List.intercalate_singleton] at member
          exact .inr ⟨piece, List.mem_cons_self, member⟩
      | cons next pieces =>
          rw [List.intercalate_cons_cons, List.mem_append, List.mem_append,
            List.mem_singleton] at member
          rcases member with (here | separator) | later
          · exact .inr ⟨piece, List.mem_cons_self, here⟩
          · exact .inl separator
          · refine (ih later).imp_right fun ⟨p, found, there⟩ => ?_
            exact ⟨p, List.mem_cons_of_mem _ found, there⟩

/-- Between separators every piece stands as it is. -/
theorem infix_intercalate {α : Type} {separator piece : List α} {pieces : List (List α)}
    (found : piece ∈ pieces) : piece <:+: separator.intercalate pieces := by
  induction pieces with
  | nil => cases found
  | cons first pieces ih =>
      cases pieces with
      | nil =>
          obtain rfl := List.mem_singleton.mp found
          exact ⟨[], [], by simp⟩
      | cons next pieces =>
          rw [List.intercalate_cons_cons, List.append_assoc]
          rcases List.mem_cons.mp found with rfl | later
          · exact List.infix_append' [] piece _
          · rw [← List.append_assoc]
            exact (ih later).trans (List.suffix_append _ _).isInfix

/-- The last piece stands behind a separator, unless it is the only one. -/
theorem intercalate_concat {α : Type} {pieces : List (List α)} (some : pieces ≠ [])
    (separator last : List α) :
    separator.intercalate (pieces ++ [last]) =
      separator.intercalate pieces ++ (separator ++ last) := by
  induction pieces with
  | nil => exact absurd rfl some
  | cons first pieces ih =>
      cases pieces with
      | nil => simp [List.intercalate_cons_cons]
      | cons next pieces =>
          have later := ih (List.cons_ne_nil next pieces)
          rw [List.cons_append] at later
          rw [List.cons_append, List.cons_append, List.intercalate_cons_cons, later,
            List.intercalate_cons_cons]
          simp only [List.append_assoc]

/-- Trimming at the end stops at a character that is not blank. -/
theorem trimEnd_append_cons (front : List Char) (h : isBlank c = false) (back : List Char) :
    trimEnd (front ++ c :: back) = front ++ c :: trimEnd back := by
  rw [trimEnd, trimEnd, List.reverse_append, List.reverse_cons, List.append_assoc,
    List.dropWhile_append]
  split
  · next blank =>
      rw [List.isEmpty_iff] at blank
      rw [blank, List.singleton_append, List.dropWhile_cons_of_neg (Bool.eq_false_iff.mp h),
        List.reverse_cons, List.reverse_reverse]
      rfl
  · rw [List.reverse_append, List.reverse_append, List.reverse_reverse, List.append_assoc]
    rfl

theorem trimStart_subset (cs : List Char) : trimStart cs ⊆ cs :=
  (List.dropWhile_sublist isBlank).subset

theorem trimEnd_subset (cs : List Char) : trimEnd cs ⊆ cs := by
  intro d member
  rw [trimEnd, List.mem_reverse] at member
  exact List.mem_reverse.mp ((List.dropWhile_sublist isBlank).subset member)

/-! ### Strings -/

/-- What stands before the first separator, character by character. -/
theorem toList_beforeFirst (c : Char) (s : String) :
    (beforeFirst c s).toList = s.toList.takeWhile (· != c) := by
  have passes : ∀ cs : List Char, c ∉ cs → ∀ d ∈ cs, (d != c) = true := by
    intro cs absent d member
    rw [bne_iff_ne]
    rintro rfl
    exact absent member
  unfold beforeFirst
  split
  · next front back found =>
      obtain ⟨parts, absent⟩ := splitFirst_eq_some found
      rw [String.toList_ofList, parts, List.takeWhile_append_of_pos (passes front absent),
        List.takeWhile_cons_of_neg (by simp), List.append_nil]
  · next found =>
      exact (List.takeWhile_eq_self_iff.mpr (passes _ (splitFirst_eq_none.mp found))).symm

/-- What stands before the first separator holds no separator. -/
theorem not_mem_beforeFirst (c : Char) (s : String) : c ∉ (beforeFirst c s).toList := by
  rw [beforeFirst]
  split
  · next found =>
      rw [String.toList_ofList]
      exact (splitFirst_eq_some found).2
  · next absent => exact splitFirst_eq_none.mp absent

/-- A text without the separator stands before the first one as a whole. -/
theorem beforeFirst_of_not_mem (h : c ∉ s.toList) : beforeFirst c s = s := by
  rw [beforeFirst, splitFirst_eq_none.mpr h]

/-- A text without the separator stands after the last one as a whole. -/
theorem afterLast_of_not_mem (h : c ∉ s.toList) : afterLast c s = s := by
  rw [afterLast, splitLast_eq_none.mpr h]

/-- What stands after the last separator of a composed text is its last part. -/
theorem afterLast_append (front : String) {back : String} (h : c ∉ back.toList) :
    afterLast c (front ++ String.ofList [c] ++ back) = back := by
  have parts : (front ++ String.ofList [c] ++ back).toList = front.toList ++ c :: back.toList := by
    rw [String.toList_append, String.toList_append, String.toList_ofList, List.append_assoc,
      List.singleton_append]
  rw [afterLast, parts, splitLast_append_cons _ h]
  exact String.ofList_toList

end JavaScaffold.Text
