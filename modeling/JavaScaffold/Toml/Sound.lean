import JavaScaffold.Toml.Moment
import JavaScaffold.Toml.Value

/-!
# Sound values

A value is sound when it can be read for its own sake, whatever its place in a document is.

## Main Definitions

* `isLong` — the integers of 64 bits
* `Value.isSound` — whether a value is sound
* `entriesAreSound` — whether all values behind some keys are sound

## Design Notes

What makes a value unsound is a number that is not there or does not fit, and a table that is marked
as a date or time without being one.  The mark is the first key of the table, and what comes behind
it does not count.  A document as a whole is never taken for a date or time, so the entries of a
document are judged by `entriesAreSound`.
-/

namespace JavaScaffold.Toml

/-- Whether `n` is an integer of 64 bits, with its sign among them. -/
def isLong (n : Int) : Bool :=
  -Int.pow 2 63 ≤ n && n < Int.pow 2 63

/-- Whether a value is the text of a date or time. -/
def Value.isMomentText : Value → Bool
  | .text s => isMoment s.toList
  | _ => false

mutual

/-- Whether a value is sound. -/
def Value.isSound : Value → Bool
  | .integer n => n.any isLong
  | .float x => x.isSome
  | .array _ items => itemsAreSound items
  | .table _ [] => true
  | .table _ ((key, v) :: rest) =>
    if key == Moment.key then v.isMomentText else v.isSound && entriesAreSound rest
  | .text _ | .boolean _ | .moment => true

/-- Whether all items of an array are sound. -/
def itemsAreSound : List Value → Bool
  | [] => true
  | v :: vs => v.isSound && itemsAreSound vs

/-- Whether all values behind some keys are sound. -/
def entriesAreSound : List (String × Value) → Bool
  | [] => true
  | (_, v) :: rest => v.isSound && entriesAreSound rest

end

end JavaScaffold.Toml
