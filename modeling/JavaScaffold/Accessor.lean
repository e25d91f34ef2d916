import JavaScaffold.Text.LetterCase

/-!
# Accessor names

The names of the methods that read and write a property.

## Main Definitions

* `Accessor.capitalized` — a property name as it stands inside an accessor name
* `Accessor.getter`, `Accessor.setter` — the names themselves

## Design Notes

A property whose second character is uppercase, such as `eMail`, keeps its first character, so that
`geteMail` can be told from the getter of `EMail`.
-/

namespace JavaScaffold.Accessor

/-- A property name as it stands inside an accessor name: with its first character in upper case,
when that character is lowercase and the next one is not uppercase. -/
def capitalizedText : List Char → List Char
  | [] => []
  | first :: rest =>
    if Text.isLowercase first && !(rest.head?.any Text.isUppercase) then Text.capital first ++ rest
    else first :: rest

/-- The text `property` as it stands inside an accessor name. -/
def capitalized (property : String) : String :=
  String.ofList (capitalizedText property.toList)

/-- The name of the method that reads `property`. -/
def getter (property : String) (isBoolean : Bool) : String :=
  (if isBoolean then "is" else "get") ++ capitalized property

/-- The name of the method that writes `property`. -/
def setter (property : String) : String :=
  "set" ++ capitalized property

end JavaScaffold.Accessor
