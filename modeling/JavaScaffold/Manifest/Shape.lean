import JavaScaffold.Manifest.SchemaError
import JavaScaffold.Toml.Moment

/-!
# Reading values of a wanted form

## Main Definitions

* `Reading` — a value of the wanted form, or the first error
* `Reading.text`, `Reading.flag`, `Reading.list`, `Reading.word` — readings of single values
* `Reading.anything` — the reading of a value of any kind
* `Slot`, `Shape` — the keys of a table, what each of them fills in, and which are required
* `Shape.read` — the reading of a table

## Design Notes

The keys of a table are visited in ascending order, and required keys are looked for afterwards, in
the order in which the shape lists them.  An array may stand for a table: its items belong to the
keys in that order, and items beyond the last key are left alone.

A reader of units has to call itself on the items of a list in a slot.  So what a slot is given
comes with the proof that it is smaller than the value around it.
-/

namespace JavaScaffold

open Toml (Value)

/-- A value of the wanted form, or the first error. -/
abbrev Reading := Except SchemaError

/-- A value inside the value `v`. -/
abbrev Member (v : Value) := { w : Value // sizeOf w < sizeOf v }

namespace Reading

/-- Reads a text. -/
def text : Value → Reading String
  | .text s => .ok s
  | v => .error (.wrongKind v "a string")

/-- Reads the text of a path. -/
def path : Value → Reading String
  | .text s => .ok s
  | v => .error (.wrongKind v "path string")

/-- Reads a truth value. -/
def flag : Value → Reading Bool
  | .boolean b => .ok b
  | v => .error (.wrongKind v "a boolean")

theorem sizeOf_item_lt {origin : Toml.ArrayOrigin} {items : List Value} {w : Value}
    (h : w ∈ items) : sizeOf w < sizeOf (Value.array origin items) := by
  have := List.sizeOf_lt_of_mem h
  simp only [Value.array.sizeOf_spec]
  omega

theorem sizeOf_entry_lt {origin : Toml.TableOrigin} {entries : List (String × Value)}
    {e : String × Value} (h : e ∈ entries) : sizeOf e.2 < sizeOf (Value.table origin entries) := by
  have := List.sizeOf_lt_of_mem h
  obtain ⟨k, w⟩ := e
  simp only [Value.table.sizeOf_spec, Prod.mk.sizeOf_spec] at *
  omega

/-- Reads an array item by item. -/
def listOf {α : Type} (v : Value) (item : Member v → Reading α) : Reading (List α) :=
  match v, item with
  | .array _ items, item => items.attach.mapM fun ⟨w, h⟩ => item ⟨w, sizeOf_item_lt h⟩
  | v, _ => .error (.wrongKind v "a sequence")

/-- Reads an array of values that are read by `item`. -/
def list {α : Type} (item : Value → Reading α) (v : Value) : Reading (List α) :=
  listOf v fun w => item w.1

mutual

/-- Reads a value of any kind.  Only a number can be in the way, when it has more than 64 bits. -/
def anything : Value → Reading Unit
  | .integer n =>
    if n.any isWord then .ok () else .error (.wrongKind (.integer n) "any value")
  | .float none => .error (.wrongKind (.float none) "any value")
  | .array _ items => anyItems items
  | .table _ entries => anyEntries entries
  | .text _ | .float (some _) | .boolean _ | .moment => .ok ()

/-- Reads items of any kind, one after the other. -/
def anyItems : List Value → Reading Unit
  | [] => .ok ()
  | v :: vs => do
    anything v
    anyItems vs

/-- Reads what some keys hold, one after the other. -/
def anyEntries : List (String × Value) → Reading Unit
  | [] => .ok ()
  | (_, v) :: rest => do
    anything v
    anyEntries rest

end

/-- Checks that the value behind a word that is a key is empty. -/
def nothing : Value → Reading Unit
  | .array _ [] | .table _ [] => .ok ()
  | .array .. => .error .nonemptyArray
  | .table .. => .error .nonemptyTable
  | v => .error (.noTable v)

/-- The choice that a word stands for. -/
def choose {α : Type} (choices : List (String × α)) (word : String) : Reading α :=
  match choices.lookup word with
  | some a => .ok a
  | none => .error (.unknownWord word (choices.map (·.1)))

/-- Reads one of some words, or a table whose only key is such a word. -/
def word {α : Type} (choices : List (String × α)) : Value → Reading α
  | .text s => choose choices s
  | .table _ [(s, v)] => do
    let a ← choose choices s
    nothing v
    return a
  | .table _ [] => .error .noKey
  | .table .. => .error .severalKeys
  | _ => .error .noWord

end Reading

/-- A key of a table inside the value `v`, and what it fills in. -/
structure Slot (v : Value) (α : Type) where
  key : String
  isRequired : Bool
  fill : Member v → α → Reading α

namespace Slot

variable {v : Value} {α β : Type}

/-- A key that may be left out. -/
def free (key : String) (read : Value → Reading β) (put : β → α → α) : Slot v α :=
  ⟨key, false, fun w a => do return put (← read w.1) a⟩

/-- A key that has to be there. -/
def required (key : String) (read : Value → Reading β) (put : β → α → α) : Slot v α :=
  ⟨key, true, fun w a => do return put (← read w.1) a⟩

end Slot

/-- The form of a table. -/
structure Shape (v : Value) (α : Type) where
  /-- What the table is called in messages. -/
  name : String
  slots : List (Slot v α)

namespace Shape

variable {v : Value} {α : Type}

/-- The keys of a table, in order. -/
def keys (s : Shape v α) : List String :=
  s.slots.map Slot.key

/-- The keys that the value `v` gives, with what they hold. -/
def members (v : Value) (keys : List String) (name : String) : Reading (List (String × Member v)) :=
  match v with
  | .table _ entries =>
    .ok (entries.attach.map fun ⟨e, h⟩ => (e.1, ⟨e.2, Reading.sizeOf_entry_lt h⟩))
  | .array _ items =>
    .ok (keys.zip (items.attach.map fun ⟨w, h⟩ => ⟨w, Reading.sizeOf_item_lt h⟩))
  | .moment => .error (.unknownKey Toml.Moment.key keys)
  | v => .error (.wrongKind v ("struct " ++ name))

/-- Fills in what a key holds. -/
def fill (s : Shape v α) (a : α) (member : String × Member v) : Reading α :=
  match s.slots.find? (·.key == member.1) with
  | some slot => slot.fill member.2 a
  | none => .error (.unknownKey member.1 s.keys)

/-- The error for a required key that is not there. -/
def absent (s : Shape v α) (key : String) : SchemaError :=
  match v with
  | .array .. => .tooShort (s.keys.idxOf key) s.name s.keys.length
  | _ => .missingKey key

/-- Reads a table, starting from the values that keys have when they are left out. -/
def read (s : Shape v α) (initial : α) : Reading α := do
  let members ← members v s.keys s.name
  let a ← members.foldlM s.fill initial
  match s.slots.find? fun slot => slot.isRequired && !(members.any (·.1 == slot.key)) with
  | some slot => .error (s.absent slot.key)
  | none => return a

end Shape

end JavaScaffold
