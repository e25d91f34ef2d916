import JavaScaffold.Proofs.Layout.Lines
import JavaScaffold.Proofs.Text.OneLine
import Mathlib.Data.List.Forall2

/-!
# The same lines further in

Lines that stand some levels further in are printed like before, with the text of these
levels in front of each line that is not empty.  A block of lines goes further in with its
builder.  So does a body, as long as none of its lines and neither its brace has to stay
behind because there is no level left of it.

## Main Definitions

* `CodeLine.FurtherIn` — the same lines, some levels further in
* `BodyLine.StaysInside` — a body whose depth does not fall below that of its method

## Main Statements

* `CodeLine.furtherIn_block`, `CodeLine.furtherIn_body` — what goes further in
* `CodeLine.FurtherIn.intercalate_blank` — groups with blank lines between them
* `CodeLine.FurtherIn.print_eq` — how lines further in are printed
-/

namespace JavaScaffold

namespace Indent

/-- Indentation is written without line feeds. -/
theorem isOneLine_units (indent : Indent) (level : Nat) :
    Text.IsOneLine (String.join (List.replicate level indent.unit)) := by
  refine Text.isOneLine_join fun text member => ?_
  rw [List.eq_of_mem_replicate member]
  cases indent with
  | spaces width =>
      rw [unit, Text.isOneLine_ofList]
      exact fun member => absurd (List.eq_of_mem_replicate member) (by decide)
  | tab => decide

/-- More levels stand in front. -/
theorem join_units_add (indent : Indent) (level more : Nat) :
    String.join (List.replicate (level + more) indent.unit) =
      String.join (List.replicate more indent.unit) ++
        String.join (List.replicate level indent.unit) := by
  rw [Nat.add_comm, List.replicate_add, String.join_append]

end Indent

/-! ### Bodies -/

namespace BodyLine

/-- **A body that stays inside**: its depth, which is `depth` in front of it, does not fall
below zero at a line nor below one behind the last line. -/
def StaysInside (depth : Int) : List String → Prop
  | [] => 1 ≤ depth
  | line :: rest =>
    0 ≤ depthAt depth line ∧ StaysInside (depthAfter (depthAt depth line) line rest) rest

instance decidableStaysInside (depth : Int) : (lines : List String) →
    Decidable (StaysInside depth lines)
  | [] => inferInstanceAs (Decidable (_ ≤ _))
  | _ :: rest =>
    @instDecidableAnd _ _ (inferInstanceAs (Decidable (_ ≤ _))) (decidableStaysInside _ rest)

end BodyLine

/-! ### Lines -/

namespace CodeLine

variable {n : Nat} {ls ls' ms ms' : List CodeLine} {texts : List String}

/-- The line `m` is the line `l`, `n` levels further in.  It is on one line of the text.  An
empty line has no level. -/
structure IsFurtherIn (n : Nat) (l m : CodeLine) : Prop where
  flat : Text.IsOneLine l.text
  text_eq : m.text = l.text
  level_eq : l.text ≠ "" → m.level = l.level + n

/-- **The same lines further in**: each of the lines `ms` is one of the lines `ls`, `n`
levels further in. -/
def FurtherIn (n : Nat) : List CodeLine → List CodeLine → Prop :=
  List.Forall₂ (IsFurtherIn n)

theorem furtherIn_singleton {text : String} (flat : Text.IsOneLine text) (level n : Nat) :
    FurtherIn n [⟨level, text⟩] [⟨level + n, text⟩] :=
  .cons ⟨flat, rfl, fun _ => rfl⟩ .nil

theorem furtherIn_blank (n : Nat) : FurtherIn n [blank] [blank] :=
  .cons ⟨Text.isOneLine_empty, rfl, fun given => absurd rfl given⟩ .nil

theorem FurtherIn.append (first : FurtherIn n ls ms) (second : FurtherIn n ls' ms') :
    FurtherIn n (ls ++ ls') (ms ++ ms') :=
  List.rel_append first second

theorem furtherIn_block (flat : ∀ text ∈ texts, Text.IsOneLine text) (level n : Nat) :
    FurtherIn n (block level texts) (block (level + n) texts) := by
  rw [FurtherIn, block, block, List.forall₂_map_left_iff, List.forall₂_map_right_iff,
    List.forall₂_same]
  exact fun text member => ⟨flat text member, rfl, fun _ => rfl⟩

/-- **A body that stays inside** goes further in, together with its brace. -/
theorem furtherIn_body (flat : ∀ text ∈ texts, Text.IsOneLine text) {depth : Int}
    (inside : BodyLine.StaysInside depth texts) (level n : Nat) :
    FurtherIn n (body level depth texts) (body (level + n) depth texts) := by
  induction texts generalizing depth with
  | nil =>
      rw [BodyLine.StaysInside] at inside
      refine .cons ⟨(by decide : Text.IsOneLine "\x7d"), rfl, fun _ => ?_⟩ .nil
      dsimp only
      omega
  | cons line rest ih =>
      obtain ⟨here, later⟩ := inside
      obtain ⟨flatLine, flatRest⟩ := List.forall_mem_cons.mp flat
      refine .cons ⟨flatLine, rfl, fun _ => ?_⟩ (ih flatRest later)
      dsimp only
      omega

/-- Groups of lines, one for each of some things. -/
theorem furtherIn_map {α : Type} {as : List α} {lines lines' : α → List CodeLine}
    (each : ∀ a ∈ as, FurtherIn n (lines a) (lines' a)) :
    List.Forall₂ (FurtherIn n) (as.map lines) (as.map lines') := by
  rwa [List.forall₂_map_left_iff, List.forall₂_map_right_iff, List.forall₂_same]

/-- Groups of lines go further in together with the blank lines between them. -/
theorem FurtherIn.intercalate_blank {groups groups' : List (List CodeLine)}
    (each : List.Forall₂ (FurtherIn n) groups groups') :
    FurtherIn n ([blank].intercalate groups) ([blank].intercalate groups') := by
  induction each with
  | nil => exact .nil
  | cons first others ih =>
      cases others with
      | nil => simpa using first
      | cons second others =>
          rw [List.intercalate_cons_cons, List.intercalate_cons_cons]
          exact (first.append (furtherIn_blank n)).append ih

/-! ### Printing -/

/-- A line at the start of a text has the text `front` in front of it, unless it is empty. -/
theorem prefixLines_written (front : String) (indent : Indent) {l : CodeLine}
    (flat : Text.IsOneLine l.text) (rest : String) :
    Text.prefixLines front (l.written indent ++ rest) =
      (if l.text = "" then "\n" else front ++ l.written indent) ++
        Text.prefixLines front rest := by
  rw [written]
  split
  · have step := Text.prefixLines_append front Text.isOneLine_empty rest
    simpa using step
  · next given =>
      have flatWhole := (indent.isOneLine_units l.level).append flat
      have givenWhole :
          ¬ (String.join (List.replicate l.level indent.unit) ++ l.text).isEmpty = true := by
        rw [String.isEmpty_iff, String.append_eq_empty_iff, not_and]
        exact fun _ => given
      rw [Text.prefixLines_append front flatWhole, if_neg givenWhole]
      simp only [String.append_assoc]

/-- **Lines further in** are printed with the units of the new levels in front of each of
them but for the empty ones. -/
theorem FurtherIn.print_eq (further : FurtherIn n ls ms) (indent : Indent) :
    print indent ms =
      Text.prefixLines (String.join (List.replicate n indent.unit)) (print indent ls) := by
  induction further with
  | nil => rw [print_nil, Text.prefixLines_empty]
  | @cons l m ls ms here _ ih =>
      have moved : m.written indent =
          if l.text = "" then "\n"
          else String.join (List.replicate n indent.unit) ++ l.written indent := by
        rw [written, written, here.text_eq]
        split
        · rfl
        · next given =>
            rw [here.level_eq given, indent.join_units_add]
            simp only [String.append_assoc]
      rw [print_cons, print_cons, prefixLines_written _ indent here.flat, moved, ih]

end CodeLine

end JavaScaffold
