import JavaScaffold.Toml.Reader

/-!
# Documents

A document is a list of entries, cut into sections by headers, and it stands for one table.

## Main Definitions

* `Heading` — what opens a section
* `Section` — a heading with the entries below it
* `sections?` — the sections of a text
* `Section.addTo` — the table of a document with one more section
* `parse` — the table that a text stands for

## Design Notes

The text is read into sections first, and the sections are put together afterwards.  So the form of
a document and the growth of its tables are two separate questions.
-/

namespace JavaScaffold.Toml

/-- What opens a section. -/
inductive Heading
  /-- Nothing: the section at the start of a document. -/
  | top
  /-- The header of a table. -/
  | table (path : List String)
  /-- The double header of an element of an array of tables. -/
  | element (path : List String)

/-- A heading with the entries below it. -/
structure Section where
  heading : Heading
  entries : List (List String × Value)

/-- The text behind two closing brackets in a row, which come after blanks at most. -/
def behindTwo? (cs : List Char) : Option (Rest cs) :=
  match _h : dropBlanks cs with
  | ']' :: ']' :: rest =>
    have h : (']' :: ']' :: rest).length ≤ cs.length := _h ▸ length_dropBlanks_le cs
    some ⟨rest, Nat.lt_of_succ_lt h⟩
  | _ => none

/-- Reads what follows the opening brackets of a header: a path, and the end that `close` reads. -/
def header? (close : (cs : List Char) → Option (Rest cs)) (cs : List Char) :
    Option (List String × Rest cs) := do
  let (path, rest) ← path? (dropBlanks cs)
  let last ← close rest.1
  return (path, (last.of (Nat.le_of_lt rest.2)).of (length_dropBlanks_le cs))

/-- Reads a header. -/
def heading? : Reader Heading
  | '[' :: '[' :: cs =>
    (header? behindTwo? cs).map fun (path, rest) =>
      (.element path, rest.of (Nat.le_add_right _ 2))
  | '[' :: cs =>
    (header? (behind? .oneLine ']') cs).map fun (path, rest) => (.table path, rest.of (List.sublist_cons_self _ _).length_le)
  | _ => none

/-- One line that is not blank: a header or an entry. -/
def line? (cs : List Char) : Option ((Heading ⊕ (List String × Value)) × Rest cs) :=
  if cs.head? == some '[' then (heading? cs).map fun (heading, rest) => (.inl heading, rest)
  else (pair? .oneLine value? cs).map fun (entry, rest) => (.inr entry, rest)

/-- The entries at the start of a text, before its first header, and the sections that follow. -/
def sections? (cs : List Char) : Option (List (List String × Value) × List Section) :=
  if (dropGap cs).isEmpty then some ([], [])
  else
    match line? (dropGap cs) with
    | none => none
    | some (line, after) =>
      match _h : endLine? after.1 with
      | none => none
      | some rest =>
        have _hless : rest.length < cs.length :=
          Nat.lt_of_le_of_lt (length_endLine?_le _h)
            (Nat.lt_of_lt_of_le after.2 (length_dropGap_le cs))
        match line, sections? rest with
        | _, none => none
        | .inl heading, some (entries, sections) => some ([], ⟨heading, entries⟩ :: sections)
        | .inr entry, some (entries, sections) => some (entry :: entries, sections)
termination_by cs.length

/-- The table of a document with one more section. -/
def Section.addTo (table : Entries) (s : Section) : Option Entries :=
  match s.heading with
  | .top => putEntries s.entries table
  | .table path => openTable path (putEntries s.entries) table
  | .element path => openElement path (putEntries s.entries) table

/-- The text without a byte-order mark at its start. -/
def dropMark : List Char → List Char
  | '\ufeff' :: rest => rest
  | cs => cs

/-- The table that the text `source` stands for, or nothing when it is not a document. -/
def parse (source : String) : Option Entries := do
  let (entries, sections) ← sections? (dropMark source.toList)
  (⟨.top, entries⟩ :: sections).foldlM Section.addTo []

end JavaScaffold.Toml
