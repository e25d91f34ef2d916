import JavaScaffold.Proofs.Text.Split
import JavaScaffold.Text.Lines

/-!
# Texts on one line

A text without line feeds stays on one line, and so does whatever is put together from such
texts.

## Main Definitions

* `IsOneLine` — a text without line feeds
* `prefixLines` — a text with something in front of each of its lines

## Main Statements

* `isOneLine_append`, `isOneLine_intercalate`, `isOneLine_join` — composed texts
* `isOneLine_of_mem_lines` — the lines of a text
* `prefixLines_append` — the first line of a text, and the rest
-/

namespace JavaScaffold.Text

variable {c : Char} {cs piece : List Char} {pieces : List (List Char)}

/-! ### Pieces between separators -/

theorem not_mem_of_mem_consHead {d : Char} (other : d ≠ c) (free : ∀ p ∈ pieces, c ∉ p) :
    ∀ p ∈ consHead d pieces, c ∉ p := by
  cases pieces with
  | nil => simpa [consHead] using other.symm
  | cons first pieces =>
      rw [consHead, List.forall_mem_cons, List.mem_cons, not_or]
      exact ⟨⟨other.symm, free first List.mem_cons_self⟩, (List.forall_mem_cons.mp free).2⟩

/-- The pieces between separators have no separator in them. -/
theorem not_mem_of_mem_splitAll (found : piece ∈ splitAll c cs) : c ∉ piece := by
  induction cs generalizing piece with
  | nil =>
      obtain rfl := List.mem_singleton.mp found
      exact List.not_mem_nil
  | cons d cs ih =>
      rw [splitAll] at found
      split at found
      · rcases List.mem_cons.mp found with rfl | later
        · exact List.not_mem_nil
        · exact ih later
      · next other => exact not_mem_of_mem_consHead other (fun p => ih) piece found

/-- A line has no character that is not in the piece it comes from. -/
theorem not_mem_of_mem_linesOfPieces (free : ∀ p ∈ pieces, c ∉ p) :
    ∀ line ∈ linesOfPieces pieces, c ∉ line := by
  induction pieces with
  | nil =>
      intro line found
      cases found
  | cons first pieces ih =>
      obtain ⟨here, later⟩ := List.forall_mem_cons.mp free
      cases pieces with
      | nil =>
          rw [linesOfPieces]
          split
          · nofun
          · simpa using here
      | cons next pieces =>
          rw [linesOfPieces, List.forall_mem_cons]
          · refine ⟨fun found => here ?_, ih later⟩
            rw [dropReturn] at found
            split at found
            · exact (List.dropLast_sublist first).subset found
            · exact found
          · exact List.cons_ne_nil next pieces

/-! ### Composed texts -/

/-- **A text on one line** has no line feed in it. -/
def IsOneLine (text : String) : Prop :=
  '\n' ∉ text.toList

instance (text : String) : Decidable (IsOneLine text) :=
  inferInstanceAs (Decidable (¬ _))

variable {text front back separator : String} {texts : List String}

@[simp] theorem isOneLine_append :
    IsOneLine (front ++ back) ↔ IsOneLine front ∧ IsOneLine back := by
  rw [IsOneLine, String.toList_append, List.mem_append, not_or, IsOneLine, IsOneLine]

theorem IsOneLine.append (flatFront : IsOneLine front) (flatBack : IsOneLine back) :
    IsOneLine (front ++ back) :=
  isOneLine_append.mpr ⟨flatFront, flatBack⟩

theorem isOneLine_ofList : IsOneLine (String.ofList cs) ↔ '\n' ∉ cs := by
  rw [IsOneLine, String.toList_ofList]

theorem isOneLine_empty : IsOneLine "" := by decide

theorem isOneLine_intercalate (flat : IsOneLine separator) (all : ∀ t ∈ texts, IsOneLine t) :
    IsOneLine (separator.intercalate texts) := by
  induction texts with
  | nil => exact isOneLine_empty
  | cons first texts ih =>
      obtain ⟨here, later⟩ := List.forall_mem_cons.mp all
      cases texts with
      | nil => simpa using here
      | cons next texts =>
          rw [String.intercalate_cons_cons, isOneLine_append, isOneLine_append]
          exact ⟨⟨here, flat⟩, ih later⟩

theorem isOneLine_join (all : ∀ t ∈ texts, IsOneLine t) : IsOneLine (String.join texts) := by
  induction texts with
  | nil => simpa using isOneLine_empty
  | cons first texts ih =>
      obtain ⟨here, later⟩ := List.forall_mem_cons.mp all
      rw [String.join_cons, isOneLine_append]
      exact ⟨here, ih later⟩

/-- The lines of a text are on one line each, whatever the text is. -/
theorem isOneLine_of_mem_lines {s line : String} (found : line ∈ lines s) : IsOneLine line := by
  obtain ⟨cs, member, rfl⟩ := List.mem_map.mp found
  rw [isOneLine_ofList]
  exact not_mem_of_mem_linesOfPieces (fun p => not_mem_of_mem_splitAll) cs member

theorem isOneLine_afterLast (c : Char) (flat : IsOneLine text) : IsOneLine (afterLast c text) := by
  rw [afterLast]
  split
  · next found =>
      rw [isOneLine_ofList]
      intro inside
      refine flat ?_
      rw [(splitLast_eq_some found).1]
      exact List.mem_append_right _ (List.mem_cons_of_mem _ inside)
  · exact flat

/-! ### Something in front of the lines -/

/-- **The text `text` with `front` in front of each of its lines** but for the empty ones. -/
def prefixLines (front text : String) : String :=
  String.ofList (['\n'].intercalate ((splitAll '\n' text.toList).map fun line =>
    if line.isEmpty then [] else front.toList ++ line))

theorem prefixLines_empty (front : String) : prefixLines front "" = "" := by
  simp [prefixLines, splitAll]

/-- The first line of a text, and the rest of it. -/
theorem prefixLines_append (front : String) {line : String} (flat : IsOneLine line)
    (rest : String) :
    prefixLines front (line ++ "\n" ++ rest) =
      (if line.isEmpty then "" else front ++ line) ++ "\n" ++ prefixLines front rest := by
  have cut : splitAll '\n' (line ++ "\n" ++ rest).toList =
      line.toList :: splitAll '\n' rest.toList := by
    rw [String.toList_append, String.toList_append, List.append_assoc]
    exact splitAll_append_cons flat _
  have more : (splitAll '\n' rest.toList).map
      (fun line => if line.isEmpty then [] else front.toList ++ line) ≠ [] := by
    simpa using splitAll_ne_nil '\n' rest.toList
  rw [prefixLines, prefixLines, cut, List.map_cons, List.intercalate_cons_of_ne_nil more]
  by_cases none : line = ""
  · simp [none]
  · simp [none, String.append_assoc]

end JavaScaffold.Text
