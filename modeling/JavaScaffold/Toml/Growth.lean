import JavaScaffold.Toml.Value

/-!
# How tables grow

## Main Definitions

* `alterKey`, `alterLast` — a change of what a key holds, and of the last item of a list
* `Growth`, `Growth.alter` — a change at the end of a path of keys
* `putEntry`, `openTable`, `openElement` — the three ways in which a table grows

## Design Notes

A table grows in three ways: an entry may name a path of keys, a header opens a table for the
entries below it, and a double header opens a new element of an array of tables.  The three share
one walk along the path, and differ in what they may pass through and in what they may find at its
end.  Tables and arrays that are written as values never grow.
-/

namespace JavaScaffold.Toml

/-- The entries with `change` applied to what the key `key` holds; a new key goes to its place in
the order. -/
def alterKey (key : String) (change : Option Value → Option Value) : Entries → Option Entries
  | [] => (change none).map fun v => [(key, v)]
  | (k, v) :: rest =>
    if key < k then (change none).map fun w => (key, w) :: (k, v) :: rest
    else if k = key then (change (some v)).map fun w => (k, w) :: rest
    else (alterKey key change rest).map ((k, v) :: ·)

/-- The list with `change` applied to its last item. -/
def alterLast (change : Value → Option Value) : List Value → Option (List Value)
  | [] => none
  | [v] => (change v).map fun v => [v]
  | v :: vs => (alterLast change vs).map (v :: ·)

/-- A way of growing a table at the end of a path. -/
structure Growth where
  /-- The origin of the tables that the path adds on its way. -/
  added : TableOrigin
  /-- Whether the path may go through a table of this origin; the flag tells whether the table is
  the last one on the path. -/
  throughTable : TableOrigin → Bool → Bool
  /-- Whether the path may go through the last element of an array of tables; the flag tells whether
  that element is the last table on the path. -/
  throughArrays : Bool → Bool
  /-- What the last key of the path holds afterwards. -/
  atEnd : Option Value → Option Value

/-- The entries of a table that the path reaches, with `change` applied to them. -/
def Growth.enter (g : Growth) (last : Bool) (change : Entries → Option Entries) :
    Option Value → Option Value
  | none => (change []).map (.table g.added)
  | some (.table origin entries) =>
    if g.throughTable origin last then (change entries).map (.table origin) else none
  | some (.array .headers items) =>
    if g.throughArrays last then
      (alterLast (fun item =>
        match item with
        | .table origin entries => (change entries).map (.table origin)
        | _ => none) items).map (.array .headers)
    else none
  | some _ => none

/-- The entries after the growth `g` at the end of a path, or nothing when the path is blocked. -/
def Growth.alter (g : Growth) : List String → Entries → Option Entries
  | [], _ => none
  | [key], entries => alterKey key g.atEnd entries
  | key :: path, entries =>
    alterKey key (g.enter (path.length == 1) (g.alter path)) entries

/-- An entry at the end of a path of keys.  Its tables are its own: it adds to those that earlier
paths of keys have added, and passes through elements of arrays and through tables that exist only
for the sake of others. -/
def putEntry (path : List String) (v : Value) : Entries → Option Entries :=
  Growth.alter
    { added := .dotted
      throughTable := fun origin last => origin == .dotted || (origin == .passed && !last)
      throughArrays := fun last => !last
      atEnd := fun old => if old.isNone then some v else none } path

/-- Some entries, one after the other. -/
def putEntries (entries : List (List String × Value)) (table : Entries) : Option Entries :=
  entries.foldlM (fun table (path, v) => putEntry path v table) table

/-- The growth by a header: every table and array of tables is open that is not a literal. -/
def throughHeaders (atEnd : Option Value → Option Value) : Growth :=
  { added := .passed
    throughTable := fun origin _ => origin != .literal
    throughArrays := fun _ => true
    atEnd := atEnd }

/-- The table at the end of a path gets a header, and `body` fills it. -/
def openTable (path : List String) (body : Entries → Option Entries) : Entries → Option Entries :=
  Growth.alter (throughHeaders fun old =>
    match old with
    | none => (body []).map (.table .header)
    | some (.table .passed entries) => (body entries).map (.table .header)
    | some _ => none) path

/-- The array of tables at the end of a path gets a new element, and `body` fills it. -/
def openElement (path : List String) (body : Entries → Option Entries) : Entries → Option Entries :=
  Growth.alter (throughHeaders fun old =>
    match old with
    | none => (body []).map fun entries => .array .headers [.table .header entries]
    | some (.array .headers items) =>
      (body []).map fun entries => .array .headers (items ++ [.table .header entries])
    | some _ => none) path

end JavaScaffold.Toml
