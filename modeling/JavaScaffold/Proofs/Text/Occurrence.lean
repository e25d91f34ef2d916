import JavaScaffold.Proofs.Text.Split
import JavaScaffold.Text.Search

/-!
# Texts inside texts

A text stands in another one between what is in front of it and what is behind it.  A search
finds the first such place and reports it in bytes, so a place has to be said in both ways.

## Main Definitions

* `Occurs` — a text stands in another one
* `Span.Marks` — a stretch of bytes that is a given text

## Main Statements

* `before?_eq_none_iff` — a search fails when there is nothing to find
* `Span.marks_of_append` — what stands between two texts is marked by its bytes
* `spanOf?_eq_none_iff`, `marks_of_spanOf?` — what a search reports
-/

namespace JavaScaffold.Text

variable {part whole other : String} {pieces : List String} {needle cs : List Char}

/-! ### Occurrences -/

/-- The text `part` **stands in** the text `whole`. -/
def Occurs (part whole : String) : Prop :=
  part.toList <:+: whole.toList

theorem Occurs.refl (part : String) : Occurs part part :=
  List.infix_refl _

theorem Occurs.trans (inner : Occurs part whole) (outer : Occurs whole other) :
    Occurs part other :=
  List.IsInfix.trans inner outer

/-- What stands in the front of a text. -/
theorem Occurs.inFront (inside : Occurs part whole) (back : String) :
    Occurs part (whole ++ back) := by
  refine inside.trans ?_
  rw [Occurs, String.toList_append]
  exact (List.prefix_append _ _).isInfix

/-- What stands at the end of a text. -/
theorem Occurs.atEnd (inside : Occurs part whole) (front : String) :
    Occurs part (front ++ whole) := by
  refine inside.trans ?_
  rw [Occurs, String.toList_append]
  exact (List.suffix_append _ _).isInfix

theorem occurs_intercalate (member : part ∈ pieces) (separator : String) :
    Occurs part (separator.intercalate pieces) := by
  rw [Occurs, String.toList_intercalate]
  exact infix_intercalate (List.mem_map_of_mem member)

/-! ### Searching -/

/-- **A search fails** when the text does not occur. -/
theorem before?_eq_none_iff : before? needle cs = none ↔ ¬ needle <:+: cs := by
  induction cs with
  | nil =>
      rw [before?, List.infix_nil]
      cases needle <;> simp
  | cons c rest ih =>
      rw [before?, List.infix_cons_iff, not_or, ← ih, ← List.isPrefixOf_iff_prefix]
      cases needle.isPrefixOf (c :: rest) <;> simp

/-- The number of bytes of some characters is that of their text. -/
theorem byteSize_eq (cs : List Char) : byteSize cs = (String.ofList cs).utf8ByteSize := by
  induction cs with
  | nil => rfl
  | cons c cs ih =>
      rw [byteSize, List.foldr_cons, ← byteSize, ih, String.ofList_cons,
        String.utf8ByteSize_append, String.utf8ByteSize_singleton]

theorem byteSize_toList (s : String) : byteSize s.toList = s.utf8ByteSize := by
  rw [byteSize_eq, String.ofList_toList]

/-! ### Stretches of bytes -/

namespace Span

/-- **The stretch `span` of `source` is the text `text`.**  It lies in `source`, starts and
ends between two characters, and its bytes are those of `text`. -/
structure Marks (span : Span) (source text : String) : Prop where
  start_valid : String.Pos.Raw.IsValid source ⟨span.offset⟩
  end_valid : String.Pos.Raw.IsValid source ⟨span.offset + span.length⟩
  bytes_eq : source.toUTF8.extract span.offset (span.offset + span.length) = text.toUTF8

/-- **What stands between two texts** is marked by its bytes. -/
theorem marks_of_append (front text back : String) :
    Marks ⟨front.utf8ByteSize, text.utf8ByteSize⟩ (front ++ text ++ back) text where
  start_valid :=
    String.Pos.Raw.isValid_iff_exists_append.mpr ⟨front, text ++ back, String.append_assoc, rfl⟩
  end_valid := by
    refine String.Pos.Raw.isValid_iff_exists_append.mpr ⟨front ++ text, back, rfl, ?_⟩
    rw [String.rawEndPos, String.utf8ByteSize_append]
  bytes_eq := by
    change (front ++ text ++ back).toByteArray.extract (front.toByteArray.size + 0)
      (front.toByteArray.size + text.toByteArray.size) = text.toByteArray
    rw [String.append_assoc, String.toByteArray_append, String.toByteArray_append,
      ByteArray.extract_append_size_add]
    exact ByteArray.extract_append_eq_left rfl

end Span

/-- The parts of a text, as texts. -/
theorem eq_append_of_toList {source text : String} {front back : List Char}
    (split : source.toList = front ++ text.toList ++ back) :
    source = String.ofList front ++ text ++ String.ofList back := by
  rw [← String.toList_inj, split, String.toList_append, String.toList_append,
    String.toList_ofList, String.toList_ofList]

theorem spanOf?_eq_none_iff : spanOf? needle cs = none ↔ ¬ needle <:+: cs := by
  rw [spanOf?, Option.map_eq_none_iff, before?_eq_none_iff]

/-- **What a search reports** is the text that has been searched for. -/
theorem marks_of_spanOf? {source text : String} {span : Span}
    (found : spanOf? text.toList source.toList = some span) : span.Marks source text := by
  obtain ⟨front, place, rfl⟩ := Option.map_eq_some_iff.mp found
  obtain ⟨back, split⟩ := exists_append_of_before? place
  rw [byteSize_eq, byteSize_toList, eq_append_of_toList split]
  exact Span.marks_of_append _ text _

end JavaScaffold.Text
