/-!
# Finding one text inside another

## Main Definitions

* `before?` — what stands before the first occurrence of a text
* `Span` — a stretch of a text, in bytes of its UTF-8 form
* `byteSize` — the number of such bytes
-/

namespace JavaScaffold.Text

/-- What stands before the first occurrence of `needle` in the argument, or nothing when `needle`
does not occur.  The empty text occurs at the start of every text. -/
def before? (needle : List Char) : List Char → Option (List Char)
  | [] => if needle.isEmpty then some [] else none
  | c :: rest =>
    if needle.isPrefixOf (c :: rest) then some [] else (before? needle rest).map (c :: ·)

/-- A stretch of a text: where it starts and how long it is, both in bytes of the UTF-8 form. -/
structure Span where
  offset : Nat
  length : Nat
  deriving Repr, DecidableEq

/-- The number of bytes in the UTF-8 form of `cs`. -/
def byteSize (cs : List Char) : Nat :=
  cs.foldr (fun c size => c.utf8Size + size) 0

/-- The first occurrence of `needle` in `cs`. -/
def spanOf? (needle cs : List Char) : Option Span :=
  (before? needle cs).map fun front => ⟨byteSize front, byteSize needle⟩

/-- A found text stands where it was found. -/
theorem exists_append_of_before? {needle cs front : List Char} (h : before? needle cs = some front) :
    ∃ rest, cs = front ++ needle ++ rest := by
  induction cs generalizing front with
  | nil =>
    simp only [before?] at h
    split at h <;> simp_all
  | cons c rest ih =>
    simp only [before?] at h
    split at h
    · next hp =>
      obtain ⟨tail, ht⟩ := List.isPrefixOf_iff_prefix.1 hp
      exact ⟨tail, by simp_all⟩
    · obtain ⟨front', hf, rfl⟩ := Option.map_eq_some_iff.1 h
      obtain ⟨tail, rfl⟩ := ih hf
      exact ⟨tail, by simp⟩

end JavaScaffold.Text
