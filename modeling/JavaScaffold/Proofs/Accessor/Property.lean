import JavaScaffold.Accessor
import Mathlib

/-!
# From an accessor back to its property

Whoever finds an accessor in a class works out the property behind it from the name
alone: the word in front is taken off, and the first letter of the rest is put in lower
case, unless the rest starts with two upper-case letters.  This is meant to undo what the
accessor name has been made by, so that properties with different names have no accessor
in common.

## Main Definitions

* `Accessor.decapitalized` — what follows the word of an accessor, as the name of a property
* `Accessor.property?` — the property that is read off the name of an accessor
* `Accessor.IsProperty` — property names that can be read off again

## Main Statements

* `Accessor.decapitalizedText_capitalizedText_iff` — which ASCII names come back
* `Accessor.getter_eq_iff`, `Accessor.setter_eq_iff` — when two accessors have one name
* `Accessor.property?_accessors` — properties are read off their accessors

## Design Notes

Both rules look at the same two characters.  The name that they do not bring back is one
with a single upper-case letter in front, such as `Name`: it is left as it is on the way
there, and comes back as `name`, which has the same accessors.

The names are ASCII text, so the case of a letter is the one that `Char` knows.
-/

namespace JavaScaffold.Accessor

variable {first : Char} {rest cs : List Char} {property other : String}

/-! ### The way back -/

/-- **The name of a property**, made of what follows the word in an accessor: as it is
when it starts with two upper-case letters, else with its first character in lower
case. -/
def decapitalizedText : List Char → List Char
  | [] => []
  | first :: rest =>
    if first.isUpper && rest.head?.any Char.isUpper then first :: rest else first.toLower :: rest

/-- The text `name` as the name of a property. -/
def decapitalized (name : String) : String :=
  String.ofList (decapitalizedText name.toList)

/-- **The property that is read off an accessor** with the word `word` in front.  A name
without that word belongs to none. -/
def property? (word accessor : String) : Option String :=
  (accessor.toList.dropPrefix? word.toList).map fun rest =>
    decapitalized (String.ofList rest)

theorem property?_append (word name : String) :
    property? word (word ++ name) = some (decapitalized name) := by
  have behind : (word ++ name).toList.dropPrefix? word.toList = some name.toList := by
    rw [List.dropPrefix?_eq_some_iff, String.toList_append]
    exact ⟨word.toList, rfl, beq_self_eq_true _⟩
  rw [property?, behind, Option.map_some, String.ofList_toList]

/-! ### There and back -/

/-- A lower-case letter comes back from upper case. -/
theorem toLower_toUpper_of_isLower (lower : first.isLower = true) :
    first.toUpper.toLower = first := by
  rw [Char.toLower_toUpper_eq_toLower]
  exact Char.toLower_eq_of_not_isUpper (Char.not_isUpper_of_isLower lower)

/-- An upper-case letter is changed by lower case. -/
theorem toLower_ne_of_isUpper (upper : first.isUpper = true) : first.toLower ≠ first := by
  intro same
  have lowered := Char.isUpper_toLower_eq_false first
  rw [same, upper] at lowered
  cases lowered

/-- On ASCII text, the first letter is put in upper case when it is a lower-case one and
no upper-case letter follows it. -/
theorem capitalizedText_cons (ascii : ∀ c ∈ first :: rest, c.toNat < 128) :
    capitalizedText (first :: rest) =
      if first.isLower && !(rest.head?.any Char.isUpper) then first.toUpper :: rest
      else first :: rest := by
  have low : first.toNat < 128 := ascii first List.mem_cons_self
  have next : rest.head?.any Text.isUppercase = rest.head?.any Char.isUpper := by
    cases rest with
    | nil => rfl
    | cons second rest =>
        have lowSecond : second.toNat < 128 := ascii second (by simp)
        simp [Text.isUppercase, lowSecond]
  simp only [capitalizedText, next, Text.isLowercase, Text.capital, low, if_true,
    List.singleton_append]

/-- **Which names come back.**  A name of ASCII characters is found again behind the word
of its accessor unless it starts with a single upper-case letter. -/
theorem decapitalizedText_capitalizedText_iff (ascii : ∀ c ∈ first :: rest, c.toNat < 128) :
    decapitalizedText (capitalizedText (first :: rest)) = first :: rest ↔
      (first.isUpper = true → rest.head?.any Char.isUpper = true) := by
  rw [capitalizedText_cons ascii]
  cases upper : first.isUpper with
  | true =>
      -- An upper-case letter is kept on the way there, and on the way back only in a pair.
      have notLower : first.isLower = false :=
        Bool.eq_false_iff.mpr (Char.not_isLower_of_isUpper upper)
      cases paired : rest.head?.any Char.isUpper with
      | true => simp [decapitalizedText, notLower, upper, paired]
      | false => simp [decapitalizedText, notLower, paired, toLower_ne_of_isUpper upper]
  | false =>
      have kept : first.toLower = first :=
        Char.toLower_eq_of_not_isUpper (Bool.eq_false_iff.mp upper)
      refine iff_of_true ?_ nofun
      split
      · next changed =>
          -- The letter has been put in upper case, so no upper-case letter follows it.
          rw [Bool.and_eq_true, Bool.not_eq_true'] at changed
          rw [decapitalizedText, changed.2, Bool.and_false, if_neg Bool.false_ne_true,
            toLower_toUpper_of_isLower changed.1]
      · rw [decapitalizedText, upper, Bool.false_and, if_neg Bool.false_ne_true, kept]

/-! ### Names of properties -/

/-- **How the name of a property starts**: with a lower-case letter, with one of the signs
`_` and `$`, or with two upper-case letters. -/
inductive StartsProperty : List Char → Prop
  | letter {first : Char} {rest : List Char} (lower : first.isLower = true) :
      StartsProperty (first :: rest)
  | sign {first : Char} {rest : List Char} (isSign : first = '_' ∨ first = '$') :
      StartsProperty (first :: rest)
  | pair {first second : Char} {rest : List Char} (upper : first.isUpper = true)
      (upperNext : second.isUpper = true) : StartsProperty (first :: second :: rest)

/-- **A property name that can be read off again**: ASCII text with such a start. -/
structure IsProperty (property : String) : Prop where
  ascii : ∀ c ∈ property.toList, c.toNat < 128
  start : StartsProperty property.toList

/-- A name that starts in this way comes back. -/
theorem StartsProperty.decapitalizedText_capitalizedText (start : StartsProperty cs)
    (ascii : ∀ c ∈ cs, c.toNat < 128) : decapitalizedText (capitalizedText cs) = cs := by
  cases start with
  | letter lower =>
      refine (decapitalizedText_capitalizedText_iff ascii).mpr fun upper => ?_
      exact absurd lower (Char.not_isLower_of_isUpper upper)
  | sign isSign =>
      refine (decapitalizedText_capitalizedText_iff ascii).mpr fun upper => ?_
      rcases isSign with rfl | rfl
      · exact absurd upper (by decide)
      · exact absurd upper (by decide)
  | pair _ upperNext =>
      exact (decapitalizedText_capitalizedText_iff ascii).mpr fun _ => upperNext

theorem IsProperty.decapitalized_capitalized (named : IsProperty property) :
    decapitalized (capitalized property) = property := by
  rw [decapitalized, capitalized, String.toList_ofList,
    named.start.decapitalizedText_capitalizedText named.ascii, String.ofList_toList]

/-! ### Accessors with one name -/

/-- Two methods that read have one name only if they have the same word in front. -/
theorem getter_eq_iff {isBoolean isBoolean' : Bool} :
    getter property isBoolean = getter other isBoolean' ↔
      isBoolean = isBoolean' ∧ capitalized property = capitalized other := by
  constructor
  · intro same
    have words : isBoolean = isBoolean' := by
      have letters := congrArg (fun name : String => name.toList.head?) same
      cases isBoolean <;> cases isBoolean' <;> simp [getter] at letters ⊢
    subst words
    exact ⟨rfl, (String.append_right_inj _).mp same⟩
  · rintro ⟨rfl, same⟩
    rw [getter, getter, same]

theorem setter_eq_iff : setter property = setter other ↔ capitalized property = capitalized other :=
  String.append_right_inj _

/-- **Properties are read off their accessors.**  The name of a property is what the word in
front of its accessors is followed by, decapitalized, whether the property is boolean or
not.  Hence a property with another name has neither of its accessors. -/
theorem property?_accessors (property : String) (named : IsProperty property) :
    (∀ isBoolean, property? (if isBoolean then "is" else "get") (getter property isBoolean) =
        some property) ∧
      property? "set" (setter property) = some property ∧
      ∀ other, IsProperty other → other ≠ property →
        (∀ isBoolean isBoolean', getter other isBoolean' ≠ getter property isBoolean) ∧
          setter other ≠ setter property := by
  have back := named.decapitalized_capitalized
  refine ⟨fun isBoolean => ?_, ?_, fun other namedOther different => ?_⟩
  · rw [getter, property?_append, back]
  · rw [setter, property?_append, back]
  · have apart : capitalized other ≠ capitalized property := by
      intro same
      have backOther := namedOther.decapitalized_capitalized
      rw [same, back] at backOther
      exact different backOther.symm
    refine ⟨fun isBoolean isBoolean' same => ?_, fun same => ?_⟩
    · exact apart (getter_eq_iff.mp same).2
    · exact apart (setter_eq_iff.mp same)

/-- The properties `eMail` and `EMail` differ in the case of one letter. -/
theorem property?_accessors_eMail :
    IsProperty "eMail" ∧ IsProperty "EMail" ∧
      property? "get" "geteMail" = some "eMail" ∧ property? "is" "iseMail" = some "eMail" ∧
      property? "set" "seteMail" = some "eMail" ∧
      getter "EMail" false ≠ getter "eMail" false ∧ setter "EMail" ≠ setter "eMail" := by
  have eMail : IsProperty "eMail" := ⟨by simp, .letter (by decide)⟩
  have other : IsProperty "EMail" := ⟨by simp, .pair (by decide) (by decide)⟩
  obtain ⟨reads, writes, apart⟩ := property?_accessors "eMail" eMail
  obtain ⟨getters, setters⟩ := apart "EMail" other (by decide)
  exact ⟨eMail, other, reads false, reads true, writes, getters false false, setters⟩

end JavaScaffold.Accessor
