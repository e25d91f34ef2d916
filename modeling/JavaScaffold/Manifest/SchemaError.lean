import JavaScaffold.Text.Quoted
import JavaScaffold.Toml.Value

/-!
# Errors in the form of a manifest

A manifest that is a proper document may still not have the form of a manifest: a key may be unknown
or missing, or a value may be of the wrong kind.

## Main Definitions

* `SchemaError` — why a value does not have the form that is wanted
* `SchemaError.message` — the wording
* `Toml.Value.described` — what a value is called in a message
-/

namespace JavaScaffold

/-- Whether `n` fits into 64 bits, with or without a bit for the sign. -/
def isWord (n : Int) : Bool :=
  -Int.pow 2 63 ≤ n && n < Int.pow 2 64

/-- Whether `n` fits into 128 bits, one of which is for the sign. -/
def isDoubleWord (n : Int) : Bool :=
  -Int.pow 2 127 ≤ n && n < Int.pow 2 127

/-- The kind of integer that `n` fits into, when it is too large for 64 bits. -/
def sizeNote (n : Int) : String :=
  if isWord n then "" else if isDoubleWord n then " as i128" else " as u128"

/-- What a value is called in a message. -/
def Toml.Value.described : Toml.Value → String
  | .text s => "string " ++ Text.quoted s
  | .integer (some n) => "integer `" ++ toString n ++ "`" ++ sizeNote n
  | .integer none => "integer"
  | .float (some x) => "floating point `" ++ x.text ++ "`"
  | .float none => "floating point"
  | .boolean b => "boolean `" ++ toString b ++ "`"
  | .array .. => "sequence"
  | .moment | .table .. => "map"

/-- What is said of a value without a number, or with one that is too large for any purpose. -/
def Toml.Value.overflow? : Toml.Value → Option String
  | .integer n =>
    if n.any fun n => isDoubleWord n || (0 ≤ n && n < Int.pow 2 128) then none
    else some "integer number overflowed"
  | .float none => some "floating-point number overflowed"
  | _ => none

/-- What a value that cannot stand for an empty table is called. -/
def Toml.Value.kindName : Toml.Value → String
  | .text _ => "string"
  | .integer _ => "integer"
  | .float _ => "float"
  | .boolean _ => "boolean"
  | .moment => "datetime"
  | .array .. => "array"
  | .table .. => "table"

/-- Why a value does not have the form that is wanted. -/
inductive SchemaError
  /-- A table has a key that is not among the `known` ones. -/
  | unknownKey (key : String) (known : List String)
  /-- A table lacks a key. -/
  | missingKey (key : String)
  /-- An array that stands for a table is too short. -/
  | tooShort (length : Nat) (table : String) (wanted : Nat)
  /-- A value is of the wrong kind. -/
  | wrongKind (found : Toml.Value) (wanted : String)
  /-- A word is not among the `known` ones. -/
  | unknownWord (word : String) (known : List String)
  /-- A value is neither a word nor a table with a word as its key. -/
  | noWord
  /-- A table in place of a word has no key. -/
  | noKey
  /-- A table in place of a word has several keys. -/
  | severalKeys
  /-- The word that is the key of a table holds an array with items. -/
  | nonemptyArray
  /-- The word that is the key of a table holds a table with keys. -/
  | nonemptyTable
  /-- The word that is the key of a table holds a value that is neither an array nor a table. -/
  | noTable (found : Toml.Value)
  /-- An indentation is neither a width nor the word for a tab. -/
  | badIndent

namespace SchemaError

/-- The text `s` between backquotes. -/
def marked (s : String) : String :=
  "`" ++ s ++ "`"

/-- What was expected, when it is one of some words. -/
def oneOf : List String → String
  | [] => "nothing"
  | [a] => marked a
  | [a, b] => marked a ++ " or " ++ marked b
  | words => "one of " ++ ", ".intercalate (words.map marked)

/-- The wording of a schema error. -/
def message : SchemaError → String
  | unknownKey key known => "unknown field " ++ marked key ++ ", expected " ++ oneOf known
  | missingKey key => "missing field " ++ marked key
  | tooShort length table wanted =>
    "invalid length " ++ toString length ++ ", expected struct " ++ table ++ " with " ++
      toString wanted ++ " elements"
  | wrongKind found wanted =>
    found.overflow?.getD ("invalid type: " ++ found.described ++ ", expected " ++ wanted)
  | unknownWord word known => "unknown variant " ++ marked word ++ ", expected " ++ oneOf known
  | noWord => "wanted string or table"
  | noKey => "wanted exactly 1 element, found 0 elements"
  | severalKeys => "wanted exactly 1 element, more than 1 element"
  | nonemptyArray => "expected empty array"
  | nonemptyTable => "expected empty table"
  | noTable found => "expected table, found " ++ found.kindName
  | badIndent => "data did not match any variant of untagged enum IndentConfig"

end SchemaError

end JavaScaffold
