/-!
# Primitive types

The eight primitive types of Java, with the class that boxes each of them.

## Main Definitions

* `Primitive` — the eight types
* `Primitive.keyword`, `Primitive.ofKeyword?` — a type and the word it is written with
* `Primitive.wrapper` — the qualified name of the boxing class
* `Primitive.unboxing` — the call that takes a boxed value out again
-/

namespace JavaScaffold

/-- A primitive type. -/
inductive Primitive
  | byte
  | short
  | int
  | long
  | char
  | float
  | double
  | boolean
  deriving Repr, DecidableEq

namespace Primitive

/-- Every primitive type. -/
def all : List Primitive :=
  [byte, short, int, long, char, float, double, boolean]

/-- The word a primitive type is written with. -/
def keyword : Primitive → String
  | byte => "byte"
  | short => "short"
  | int => "int"
  | long => "long"
  | char => "char"
  | float => "float"
  | double => "double"
  | boolean => "boolean"

/-- The primitive type written `word`. -/
def ofKeyword? (word : String) : Option Primitive :=
  all.find? fun p => p.keyword == word

/-- The qualified name of the class that boxes a primitive type. -/
def wrapper : Primitive → String
  | byte => "java.lang.Byte"
  | short => "java.lang.Short"
  | int => "java.lang.Integer"
  | long => "java.lang.Long"
  | char => "java.lang.Character"
  | float => "java.lang.Float"
  | double => "java.lang.Double"
  | boolean => "java.lang.Boolean"

/-- The method call that unboxes a value of the wrapper class. -/
def unboxing (p : Primitive) : String :=
  p.keyword ++ "Value()"

/-- A keyword names exactly its own type. -/
@[simp] theorem ofKeyword?_keyword (p : Primitive) : ofKeyword? p.keyword = some p := by
  cases p <;> decide

/-- Only the keyword itself names a primitive type. -/
theorem keyword_of_ofKeyword? {word : String} {p : Primitive} (h : ofKeyword? word = some p) :
    p.keyword = word := by
  simpa using List.find?_some h

end Primitive

end JavaScaffold
