import JavaScaffold.Decimal.Floating

/-!
# Values of the configuration language

## Main Definitions

* `Value` — a value
* `TableOrigin`, `ArrayOrigin` — how a table or an array came to be, which decides what may be added
  to it later
* `Entries` — the keys of a table with their values, in ascending order of the keys

## Design Notes

A numeral is known by its form, and a text of that form may still have no number.  So a numeral is a
value with or without a number, and it is for whoever asks for the number to refuse it.
-/

namespace JavaScaffold.Toml

/-- How a table came to be. -/
inductive TableOrigin
  /-- A header went through it on the way to another table. -/
  | passed
  /-- A path of keys in an entry went through it. -/
  | dotted
  /-- It has a header of its own. -/
  | header
  /-- It is written as a value. -/
  | literal
  deriving Repr, DecidableEq

/-- How an array came to be. -/
inductive ArrayOrigin
  /-- It is written as a value. -/
  | literal
  /-- Each of its elements is a table with a double header. -/
  | headers
  deriving Repr, DecidableEq

/-- A value.  Of a date or time only its presence is kept. -/
inductive Value
  | text (s : String)
  /-- An integer.  There is no number when the digits do not make one. -/
  | integer (n : Option Int)
  /-- A fraction.  There is no number when it would round to an infinity. -/
  | float (x : Option Decimal.Floating)
  | boolean (b : Bool)
  | moment
  | array (origin : ArrayOrigin) (items : List Value)
  | table (origin : TableOrigin) (entries : List (String × Value))

/-- The keys of a table with their values, in ascending order of the keys. -/
abbrev Entries := List (String × Value)

end JavaScaffold.Toml
