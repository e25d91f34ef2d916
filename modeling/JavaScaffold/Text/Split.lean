/-!
# Taking texts apart at a character

## Main Definitions

* `splitFirst`, `splitLast` — the two sides of the first or last occurrence of a character
* `afterLast`, `beforeFirst` — one side, or the whole text when the character does not occur
* `splitAll` — all the pieces between occurrences of a character

## Design Notes

The first two splits say in one lemma what they mean: the pieces with the character between them make up the
text, and one of the pieces is free of the character.
-/

namespace JavaScaffold.Text

/-- What stands before and after the first `c`. -/
def splitFirst (c : Char) : List Char → Option (List Char × List Char)
  | [] => none
  | d :: rest =>
    if d = c then some ([], rest)
    else (splitFirst c rest).map fun (front, back) => (d :: front, back)

/-- What stands before and after the last `c`. -/
def splitLast (c : Char) : List Char → Option (List Char × List Char)
  | [] => none
  | d :: rest =>
    match splitLast c rest with
    | some (front, back) => some (d :: front, back)
    | none => if d = c then some ([], rest) else none

/-- What stands before the first `c`, or all of `s`. -/
def beforeFirst (c : Char) (s : String) : String :=
  match splitFirst c s.toList with
  | some (front, _) => String.ofList front
  | none => s

/-- What stands after the last `c`, or all of `s`. -/
def afterLast (c : Char) (s : String) : String :=
  match splitLast c s.toList with
  | some (_, back) => String.ofList back
  | none => s

/-- The character `c` in front of the first piece. -/
def consHead (c : Char) : List (List Char) → List (List Char)
  | [] => [[c]]
  | piece :: pieces => (c :: piece) :: pieces

/-- The pieces of a text between its occurrences of `c`; there is one more piece than there are
occurrences. -/
def splitAll (c : Char) : List Char → List (List Char)
  | [] => [[]]
  | d :: rest => if d = c then [] :: splitAll c rest else consHead d (splitAll c rest)

theorem consHead_ne_nil (c : Char) (pieces : List (List Char)) : consHead c pieces ≠ [] := by
  cases pieces <;> simp [consHead]

theorem splitAll_ne_nil (c : Char) (cs : List Char) : splitAll c cs ≠ [] := by
  cases cs with
  | nil => simp [splitAll]
  | cons d rest =>
    simp only [splitAll]
    split
    · simp
    · exact consHead_ne_nil d _

/-- The pieces with `c` between them make up the text. -/
theorem intercalate_splitAll (c : Char) (cs : List Char) :
    [c].intercalate (splitAll c cs) = cs := by
  induction cs with
  | nil => simp [splitAll, List.intercalate]
  | cons d rest ih =>
    have hne := splitAll_ne_nil c rest
    cases hs : splitAll c rest with
    | nil => exact absurd hs hne
    | cons piece pieces =>
      rw [hs] at ih
      by_cases hd : d = c
      · simp only [splitAll, hd, ↓reduceIte, hs]
        rw [List.intercalate_cons_cons, ih]
        simp
      · simp only [splitAll, hd, ↓reduceIte, hs, consHead]
        cases pieces <;> simp_all [List.intercalate, List.intersperse]

theorem splitFirst_eq_some {c : Char} {cs front back : List Char}
    (h : splitFirst c cs = some (front, back)) : cs = front ++ c :: back ∧ c ∉ front := by
  induction cs generalizing front back with
  | nil => simp [splitFirst] at h
  | cons d rest ih =>
    simp only [splitFirst] at h
    split at h
    · simp_all
    · next hd =>
      obtain ⟨⟨f, b⟩, hf, he⟩ := Option.map_eq_some_iff.1 h
      obtain ⟨rfl, rfl⟩ := Prod.mk.inj he
      obtain ⟨rfl, hc⟩ := ih hf
      exact ⟨rfl, by simp [hc, Ne.symm hd]⟩

theorem splitFirst_eq_none {c : Char} {cs : List Char} : splitFirst c cs = none ↔ c ∉ cs := by
  induction cs with
  | nil => simp [splitFirst]
  | cons d rest ih =>
    by_cases h : d = c
    · simp [splitFirst, h]
    · simp [splitFirst, h, ih, Ne.symm h]

theorem splitLast_eq_none {c : Char} {cs : List Char} : splitLast c cs = none ↔ c ∉ cs := by
  induction cs with
  | nil => simp [splitLast]
  | cons d rest ih =>
    cases h : splitLast c rest with
    | some p => simp_all [splitLast]
    | none =>
      by_cases hd : d = c
      · simp [splitLast, h, hd]
      · have hn := ih.1 h
        simp [splitLast, h, hd, Ne.symm hd, hn]

theorem splitLast_eq_some {c : Char} {cs front back : List Char}
    (h : splitLast c cs = some (front, back)) : cs = front ++ c :: back ∧ c ∉ back := by
  induction cs generalizing front back with
  | nil => simp [splitLast] at h
  | cons d rest ih =>
    simp only [splitLast] at h
    split at h
    · next f b hs =>
      simp only [Option.some.injEq, Prod.mk.injEq] at h
      obtain ⟨rfl, rfl⟩ := h
      obtain ⟨rfl, hc⟩ := ih hs
      exact ⟨rfl, hc⟩
    · next hs =>
      split at h
      · next hd =>
        simp only [Option.some.injEq, Prod.mk.injEq] at h
        obtain ⟨rfl, rfl⟩ := h
        exact ⟨by simp [hd], splitLast_eq_none.1 hs⟩
      · simp at h

end JavaScaffold.Text
