import JavaScaffold.Accessor
import JavaScaffold.Proofs.Identifier

/-!
# Accessor names as identifiers

An accessor name is a short word with the property behind it, which starts in upper
case.  The word keeps it from being empty or reserved, so only the characters of the
property matter.  Most of them stay what they are; but the upper-case form of a letter
can be several characters, and not all of these are letters.

## Main Statements

* `Accessor.isLegal_getter`, `Accessor.isLegal_setter` — when an accessor name is legal
* `Accessor.isPart_capitalizedText` — properties that start with an ASCII character
-/

namespace JavaScaffold

namespace Identifier

/-- A word that no reserved word starts with keeps what follows it from being reserved. -/
theorem isReserved_append {front : String}
    (apart : (reservedWords.all fun word => !front.toList.isPrefixOf word.toList) = true)
    (back : String) : isReserved (front ++ back) = false := by
  simp only [isReserved, List.contains_eq_mem, decide_eq_false_iff_not]
  intro member
  have noFront := List.all_eq_true.mp apart _ member
  rw [Bool.not_eq_true', String.toList_append] at noFront
  exact Bool.eq_false_iff.mp noFront (List.isPrefixOf_iff_prefix.mpr ⟨back.toList, rfl⟩)

/-- **A word in front of a text** makes a legal name of it when the text is made of
characters of identifiers. -/
theorem isLegal_append_iff {front : String}
    (apart : (reservedWords.all fun word => !front.toList.isPrefixOf word.toList) = true)
    (given : front.toList ≠ []) (flawless : flaw? front.toList = none) {back : String} :
    IsLegal false (front ++ back) ↔ ∀ c ∈ back.toList, isPart c = true := by
  have shown : front ++ back ≠ "" := by
    intro empty
    have nothing := congrArg String.toList empty
    rw [String.toList_append] at nothing
    exact given (List.append_eq_nil_iff.mp nothing).1
  rw [isLegal_iff, isReserved_append apart, String.toList_append,
    flaw?_append_eq_none_iff given flawless]
  simp [shown]

end Identifier

namespace Accessor

variable {property : String}

/-- The name of a method that reads is legal when the property is made of characters of
identifiers, also in upper case. -/
theorem isLegal_getter (isBoolean : Bool) :
    Identifier.IsLegal false (getter property isBoolean) ↔
      ∀ c ∈ capitalizedText property.toList, Identifier.isPart c = true := by
  have text : (capitalized property).toList = capitalizedText property.toList :=
    String.toList_ofList
  unfold getter
  cases isBoolean with
  | true =>
      rw [if_pos rfl, Identifier.isLegal_append_iff (by decide) (by decide) (by decide), text]
  | false =>
      rw [if_neg Bool.false_ne_true,
        Identifier.isLegal_append_iff (by decide) (by decide) (by decide), text]

/-- The same for the name of a method that writes. -/
theorem isLegal_setter :
    Identifier.IsLegal false (setter property) ↔
      ∀ c ∈ capitalizedText property.toList, Identifier.isPart c = true := by
  unfold setter
  rw [Identifier.isLegal_append_iff (by decide) (by decide) (by decide), capitalized,
    String.toList_ofList]

/-- The upper-case form of a lower-case ASCII letter is a letter. -/
theorem isPart_toUpper {c : Char} (ascii : c.toNat < 128) (lower : Text.isLowercase c = true) :
    Identifier.isPart c.toUpper = true := by
  have table : ∀ n : Fin 128, Text.isLowercase (Char.ofNat n) = true →
      Identifier.isPart (Char.ofNat n).toUpper = true := by decide +kernel
  simpa [Char.ofNat_toNat] using table ⟨c.toNat, ascii⟩ (by simpa [Char.ofNat_toNat] using lower)

/-- **A property that starts with an ASCII character** is made of characters of identifiers
in upper case as well. -/
theorem isPart_capitalizedText {cs : List Char} (flawless : Identifier.flaw? cs = none)
    (ascii : ∀ c ∈ cs.head?, c.toNat < 128) :
    ∀ c ∈ capitalizedText cs, Identifier.isPart c = true := by
  have parts := Identifier.isPart_of_flaw?_eq_none flawless
  unfold capitalizedText
  split
  · simp
  · next first rest =>
      have low : first.toNat < 128 := ascii first rfl
      split
      · next changed =>
          have lower := (Bool.and_eq_true_iff.mp changed).1
          intro c member
          rw [Text.capital, if_pos low, List.singleton_append, List.mem_cons] at member
          rcases member with rfl | later
          · exact isPart_toUpper low lower
          · exact parts c (List.mem_cons_of_mem _ later)
      · exact parts

end Accessor

end JavaScaffold
