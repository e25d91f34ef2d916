import JavaScaffold.Proofs.TypeRef.Depth

/-!
# The commas that count

A text between angle brackets is cut at its commas of depth zero, so how many pieces
there are is a matter of counting.  This module says what is counted, without any
reference to the cutting, and relates the two.

## Main Definitions

* `depth` — the bracket depth that a text leads to
* `commasFrom`, `outerCommas` — the number of commas of depth zero
* `lastPartFrom`, `lastPart` — what follows the last one of them
* `NeverDips` — a text whose depth never falls below the start

## Main Statements

* `length_splitArguments` — the number of arguments, from the outer commas and the
  last part
* `passes_of_mem_splitArguments` — an argument comes back to depth zero, and none of
  its own commas stands there

## Design Notes

That an argument comes back to depth zero does not mean that it is well nested.  The
depth inside `b>,c<d>e<f` is below the start at its comma, and back there at its end.
-/

namespace JavaScaffold

variable {cs ds front back text : List Char} {segments : List (List Char)} {d e : Int}

/-! ### Depth -/

/-- **The depth behind a text**: its opening minus its closing brackets. -/
def depth : List Char → Int
  | [] => 0
  | c :: cs => depthStep c + depth cs

/-- A comma does not change the depth. -/
theorem depthStep_comma : depthStep ',' = 0 := rfl

@[simp] theorem depth_append (cs ds : List Char) : depth (cs ++ ds) = depth cs + depth ds := by
  induction cs with
  | nil => simp [depth]
  | cons c cs ih =>
      simp only [List.cons_append, depth, ih]
      omega

/-- A text without closing brackets does not lead down. -/
theorem depth_nonneg (noClosing : '>' ∉ text) : 0 ≤ depth text := by
  induction text with
  | nil => exact Int.le_refl 0
  | cons c cs ih =>
      rw [List.mem_cons, not_or] at noClosing
      have later := ih noClosing.2
      have step : 0 ≤ depthStep c := by
        rw [depthStep, if_neg (Ne.symm noClosing.1)]
        split <;> decide
      rw [depth]
      omega

/-- An opening bracket leads up, unless there is a closing one. -/
theorem depth_pos (noClosing : '>' ∉ text) (opening : '<' ∈ text) : 0 < depth text := by
  obtain ⟨front, back, rfl⟩ := List.append_of_mem opening
  rw [List.mem_append, List.mem_cons, not_or, not_or] at noClosing
  have before := depth_nonneg noClosing.1
  have behind := depth_nonneg noClosing.2.2
  rw [depth_append, depth, show depthStep '<' = 1 from rfl]
  omega

/-- A text without opening brackets does not lead up. -/
theorem depth_nonpos (noOpening : '<' ∉ text) : depth text ≤ 0 := by
  induction text with
  | nil => exact Int.le_refl 0
  | cons c cs ih =>
      rw [List.mem_cons, not_or] at noOpening
      have later := ih noOpening.2
      have step : depthStep c ≤ 0 := by
        rw [depthStep, if_neg (Ne.symm noOpening.1)]
        split <;> decide
      rw [depth]
      omega

/-- A closing bracket leads down, unless there is an opening one. -/
theorem depth_neg (noOpening : '<' ∉ text) (closing : '>' ∈ text) : depth text < 0 := by
  obtain ⟨front, back, rfl⟩ := List.append_of_mem closing
  rw [List.mem_append, List.mem_cons, not_or, not_or] at noOpening
  have before := depth_nonpos noOpening.1
  have behind := depth_nonpos noOpening.2.2
  rw [depth_append, depth, show depthStep '>' = -1 from rfl]
  omega

theorem depth_eq_zero (noOpening : '<' ∉ text) (noClosing : '>' ∉ text) : depth text = 0 :=
  Int.le_antisymm (depth_nonpos noOpening) (depth_nonneg noClosing)

/-- A text that is passed leads from the one depth to the other. -/
theorem Passes.depth_eq (passed : Passes d text e) : e = d + depth text := by
  induction text generalizing d with
  | nil => exact passed.symm.trans (Int.add_zero d).symm
  | cons c cs ih =>
      rw [ih passed.2, depth]
      omega

/-- No comma in a text that is passed stands at depth zero. -/
theorem Passes.depth_comma_ne (passed : Passes d (front ++ ',' :: back) e) :
    d + depth front ≠ 0 := by
  induction front generalizing d with
  | nil =>
      rw [depth, Int.add_zero]
      exact fun flat => passed.1 ⟨rfl, flat⟩
  | cons c cs ih =>
      have later := ih passed.2
      rw [depth]
      omega

/-- **A text that never dips**: nowhere in it are there more closing than opening
brackets so far. -/
def NeverDips (text : List Char) : Prop :=
  ∀ front, front <+: text → 0 ≤ depth front

/-! ### Outer commas -/

/-- The number of commas of depth zero in a text that starts at the given depth. -/
def commasFrom (d : Int) : List Char → Nat
  | [] => 0
  | c :: cs => (if c = ',' ∧ d = 0 then 1 else 0) + commasFrom (d + depthStep c) cs

/-- **The number of outer commas**: those outside all brackets. -/
def outerCommas (text : List Char) : Nat :=
  commasFrom 0 text

/-- What is left of a text when it is dropped from its start until it has no comma of
depth zero. -/
def lastPartFrom (d : Int) : List Char → List Char
  | [] => []
  | c :: cs => if commasFrom d (c :: cs) = 0 then c :: cs else lastPartFrom (d + depthStep c) cs

/-- **The last part** of a text: what follows its last outer comma, or all of it. -/
def lastPart (text : List Char) : List Char :=
  lastPartFrom 0 text

/-! ### Cutting and counting -/

/-- There is one more segment than there are commas to cut at. -/
theorem length_of_segmentsFrom (found : segmentsFrom d text = some segments) :
    segments.length = commasFrom d text + 1 := by
  induction text generalizing d segments with
  | nil =>
      rw [segmentsFrom] at found
      split at found
      · cases found
        rfl
      · cases found
  | cons c rest ih =>
      rw [segmentsFrom] at found
      split at found
      · next cut =>
          obtain ⟨later, below, rfl⟩ := Option.map_eq_some_iff.mp found
          have flat : d + depthStep c = d := by
            rw [cut.1, depthStep_comma, Int.add_zero]
          rw [List.length_cons, ih below, commasFrom, if_pos cut, flat]
          omega
      · next noCut =>
          obtain ⟨later, below, rfl⟩ := Option.map_eq_some_iff.mp found
          obtain ⟨piece, pieces, rfl⟩ := List.exists_cons_of_ne_nil (segmentsFrom_ne_nil below)
          rw [commasFrom, if_neg noCut, Nat.zero_add, ← ih below, Text.consHead, List.length_cons,
            List.length_cons]

/-- The last segment is what follows the last comma to cut at. -/
theorem getLast?_of_segmentsFrom (found : segmentsFrom d text = some segments) :
    segments.getLast? = some (lastPartFrom d text) := by
  induction text generalizing d segments with
  | nil =>
      rw [segmentsFrom] at found
      split at found
      · cases found
        rfl
      · cases found
  | cons c rest ih =>
      have count := length_of_segmentsFrom found
      rw [lastPartFrom]
      split
      · next uncut =>
          -- Without a comma to cut at there is one segment, which is all of the text.
          rw [uncut, Nat.zero_add] at count
          obtain ⟨only, rfl⟩ := List.length_eq_one_iff.mp count
          have whole := intercalate_of_segmentsFrom found
          rw [List.intercalate_singleton] at whole
          rw [whole]
          rfl
      · next cuts =>
          rw [segmentsFrom] at found
          split at found
          · next cut =>
              obtain ⟨later, below, rfl⟩ := Option.map_eq_some_iff.mp found
              have flat : d + depthStep c = d := by
                rw [cut.1, depthStep_comma, Int.add_zero]
              obtain ⟨piece, pieces, rfl⟩ :=
                List.exists_cons_of_ne_nil (segmentsFrom_ne_nil below)
              rw [List.getLast?_cons_cons, ih below, flat]
          · obtain ⟨later, below, rfl⟩ := Option.map_eq_some_iff.mp found
            cases later with
            | nil => exact absurd rfl (segmentsFrom_ne_nil below)
            | cons piece pieces =>
                cases pieces with
                | nil =>
                    rw [Text.consHead, List.length_singleton] at count
                    omega
                | cons next pieces =>
                    rw [← ih below, Text.consHead, List.getLast?_cons_cons,
                      List.getLast?_cons_cons]

/-- **The number of arguments**: one more than there are outer commas, and one less
when the last part is blank. -/
theorem length_splitArguments (found : splitArguments text = some segments) :
    segments.length + (if Text.isBlankText (lastPart text) then 1 else 0) =
      outerCommas text + 1 := by
  obtain ⟨whole, cut, rfl⟩ := Option.map_eq_some_iff.mp found
  have count := length_of_segmentsFrom cut
  rw [dropBlankLast, getLast?_of_segmentsFrom cut, lastPart, outerCommas]
  dsimp only
  split
  · rw [List.length_dropLast]
    omega
  · exact count

/-- The segments of a text are passed, the first one from the depth that the text
starts at. -/
theorem passes_of_segmentsFrom {segment : List Char}
    (found : segmentsFrom d text = some (segment :: segments)) :
    Passes d segment 0 ∧ ∀ s ∈ segments, Passes 0 s 0 := by
  induction text generalizing d segment segments with
  | nil =>
      rw [segmentsFrom] at found
      split at found
      · next flat =>
          cases found
          exact ⟨flat, List.forall_mem_nil _⟩
      · cases found
  | cons c rest ih =>
      rw [segmentsFrom] at found
      split at found
      · next cut =>
          obtain ⟨later, below, parts⟩ := Option.map_eq_some_iff.mp found
          cases parts
          obtain ⟨piece, pieces, rfl⟩ := List.exists_cons_of_ne_nil (segmentsFrom_ne_nil below)
          obtain ⟨first, others⟩ := ih below
          rw [cut.2] at first
          exact ⟨cut.2, List.forall_mem_cons.mpr ⟨first, others⟩⟩
      · next noCut =>
          obtain ⟨later, below, parts⟩ := Option.map_eq_some_iff.mp found
          obtain ⟨piece, pieces, rfl⟩ := List.exists_cons_of_ne_nil (segmentsFrom_ne_nil below)
          cases parts
          obtain ⟨first, others⟩ := ih below
          exact ⟨⟨noCut, first⟩, others⟩

/-- **An argument** comes back to depth zero, and none of its own commas stands at
that depth. -/
theorem passes_of_mem_splitArguments (found : splitArguments text = some segments)
    {segment : List Char} (member : segment ∈ segments) : Passes 0 segment 0 := by
  obtain ⟨whole, cut, rfl⟩ := Option.map_eq_some_iff.mp found
  obtain ⟨first, others, rfl⟩ := List.exists_cons_of_ne_nil (segmentsFrom_ne_nil cut)
  obtain ⟨closing, parts, -⟩ := exists_dropBlankLast_append (first :: others)
  have passed : ∀ s ∈ first :: others, Passes 0 s 0 :=
    List.forall_mem_cons.mpr (passes_of_segmentsFrom cut)
  refine passed segment ?_
  rw [parts]
  exact List.mem_append_left _ member

end JavaScaffold
