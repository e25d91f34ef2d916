import Mathlib.Data.List.Basic
import JavaScaffold.Path
import JavaScaffold.Proofs.Text.Split

/-!
# Where joined paths lead

A path that is joined to a directory can replace the directory or lead out of it.  Plain
names do neither: a path that is joined from plain names leads down from the directory,
by one component for each name.

## Main Definitions

* `Path.IsPlainName` — names that lead one step down
* `Path.below` — the path with some names below a directory
* `Path.names` — the names on a path

## Main Statements

* `Path.foldl_join_below`, `Path.join_below_empty` — joining plain names
* `Path.names_below` — the names on the joined path
-/

namespace JavaScaffold.Path

/-- **A plain name** leads one step down: it is not empty, it stands neither for the same
directory nor for the one above, and it is a single component of a path. -/
structure IsPlainName (name : String) : Prop where
  given : name ≠ ""
  notHere : name ≠ "."
  notAbove : name ≠ ".."
  undivided : '/' ∉ name.toList

/-- What stands between the directory `base` and a path below it. -/
def divider (base : String) : String :=
  if base.isEmpty || base.toList.getLast? == some '/' then "" else "/"

/-- **The path below** the directory `base` with the components `components`. -/
def below (base : String) (components : List String) : String :=
  base ++ divider base ++ "/".intercalate components

/-- The names on a path: its components without the empty ones, and without those that
stand for the same directory. -/
def names (path : String) : List String :=
  ((Text.splitAll '/' path.toList).filter fun piece => !piece.isEmpty && piece != ['.']).map
    String.ofList

variable {base path name : String} {above more : List String}

/-! ### Joining -/

/-- A path that is not absolute does not replace the directory. -/
theorem join_of_relative (base : String) (relative : isAbsolute path = false) :
    join base path = base ++ divider base ++ path := by
  rw [join, relative, if_neg Bool.false_ne_true, divider]
  split
  · rw [String.append_empty]
  · rfl

/-- Behind the divider nothing more is needed to go on. -/
theorem divider_append_divider (base : String) : divider (base ++ divider base) = "" := by
  by_cases closed : (base.isEmpty || base.toList.getLast? == some '/') = true
  · simp [divider, closed]
  · simp [divider, closed]

/-- A path that starts with a plain name is not absolute. -/
theorem IsPlainName.isAbsolute_append (plain : IsPlainName name) (rest : String) :
    isAbsolute (name ++ rest) = false := by
  have given : name.toList ≠ [] := fun nothing =>
    plain.given (String.toList_eq_nil_iff.mp nothing)
  rw [isAbsolute, beq_eq_false_iff_ne, String.toList_append, List.head?_append_of_ne_nil _ given]
  intro first
  exact plain.undivided (List.mem_of_mem_head? first)

/-- A text that ends in a plain name is not closed by a separator. -/
theorem divider_append (front : String) (plain : IsPlainName name) :
    divider (front ++ name) = "/" := by
  rcases List.eq_nil_or_concat' name.toList with nothing | ⟨start, last, letters⟩
  · exact absurd (String.toList_eq_nil_iff.mp nothing) plain.given
  · have open' : last ≠ '/' := by
      rintro rfl
      refine plain.undivided ?_
      rw [letters]
      exact List.mem_concat_self
    have given : front ++ name ≠ "" := fun empty =>
      plain.given (String.append_eq_empty_iff.mp empty).2
    simp [divider, given, letters, ← List.append_assoc, open']

theorem below_nil : below "" [] = "" :=
  rfl

theorem exists_intercalate_cons (first : String) (later : List String) :
    ∃ rest, "/".intercalate (first :: later) = first ++ rest := by
  cases later with
  | nil => exact ⟨"", by simp⟩
  | cons next later =>
      rw [String.intercalate_cons_cons, String.append_assoc]
      exact ⟨_, rfl⟩

/-- The last component stands at the end of the path. -/
theorem exists_below_concat (base : String) (front : List String) (last : String) :
    ∃ start, below base (front ++ [last]) = start ++ last := by
  rw [below]
  by_cases alone : front = []
  · rw [alone, List.nil_append, String.intercalate_singleton]
    exact ⟨_, rfl⟩
  · rw [String.intercalate_append_of_ne_nil alone (List.cons_ne_nil last []),
      String.intercalate_singleton, ← String.append_assoc]
    exact ⟨_, rfl⟩

/-- **One more name** comes to stand behind the others. -/
theorem join_below (plain : ∀ n ∈ above, IsPlainName n) (last : IsPlainName name) :
    join (below base above) name = below base (above ++ [name]) := by
  have relative := last.isAbsolute_append ""
  rw [String.append_empty] at relative
  rw [join_of_relative _ relative]
  rcases List.eq_nil_or_concat' above with rfl | ⟨front, here, rfl⟩
  · simp [below, divider_append_divider]
  · obtain ⟨start, whole⟩ := exists_below_concat base front here
    rw [whole, divider_append start (plain here List.mem_concat_self), ← whole, below, below,
      String.intercalate_append_of_ne_nil (by simp) (List.cons_ne_nil name []),
      String.intercalate_singleton]
    simp only [String.append_assoc]

/-- **Plain names** are joined one behind the other. -/
theorem foldl_join_below (plain : ∀ n ∈ above, IsPlainName n) (more' : ∀ n ∈ more, IsPlainName n) :
    more.foldl join (below base above) = below base (above ++ more) := by
  induction more generalizing above with
  | nil => rw [List.foldl_nil, List.append_nil]
  | cons n more ih =>
      obtain ⟨first, later⟩ := List.forall_mem_cons.mp more'
      rw [List.foldl_cons, join_below plain first, ih ?_ later, List.append_assoc,
        List.singleton_append]
      intro k member
      rcases List.mem_append.mp member with before | here
      · exact plain k before
      · rwa [List.mem_singleton.mp here]

/-- Plain names that have been joined on their own lead down from any directory. -/
theorem join_below_empty (base : String) (plain : ∀ n ∈ above, IsPlainName n) :
    join base (below "" above) = below base above := by
  have text : below "" above = "/".intercalate above := by
    simp [below, divider]
  have relative : isAbsolute (below "" above) = false := by
    cases above with
    | nil => rfl
    | cons n above =>
        obtain ⟨rest, starts⟩ := exists_intercalate_cons n above
        rw [text, starts]
        exact (plain n List.mem_cons_self).isAbsolute_append rest
  rw [join_of_relative base relative, text, below]

/-! ### Names -/

theorem names_empty : names "" = [] :=
  rfl

/-- A separator keeps the names on its two sides apart. -/
theorem names_append (front back : String) :
    names (front ++ "/" ++ back) = names front ++ names back := by
  have text : (front ++ "/" ++ back).toList = front.toList ++ '/' :: back.toList := by
    simp
  rw [names, text, Text.splitAll_append, List.filter_append, List.map_append]
  rfl

/-- Plain names are the names on the path that they make up. -/
theorem names_intercalate (plain : ∀ n ∈ above, IsPlainName n) :
    names ("/".intercalate above) = above := by
  cases above with
  | nil => rfl
  | cons n above =>
      have pieces : Text.splitAll '/' ("/".intercalate (n :: above)).toList =
          (n :: above).map String.toList := by
        rw [String.toList_intercalate]
        refine Text.splitAll_intercalate (by simp) fun piece found => ?_
        obtain ⟨k, member, rfl⟩ := List.mem_map.mp found
        exact (plain k member).undivided
      have kept : ∀ piece ∈ (n :: above).map String.toList,
          (!piece.isEmpty && piece != ['.']) = true := by
        intro piece found
        obtain ⟨k, member, rfl⟩ := List.mem_map.mp found
        have notHere : k.toList ≠ ['.'] := fun same =>
          (plain k member).notHere (String.toList_injective same)
        simp [(plain k member).given, notHere]
      rw [names, pieces, List.filter_eq_self.mpr kept, List.map_map]
      simp

/-- **The names on a joined path** are those on the directory and the joined ones. -/
theorem names_below (base : String) (plain : ∀ n ∈ above, IsPlainName n) :
    names (below base above) = names base ++ above := by
  have joined := names_intercalate plain
  rw [below, divider]
  split
  · next closed =>
      rcases (Bool.or_eq_true _ _).mp closed with empty | last
      · rw [String.isEmpty_iff.mp empty, String.append_empty, String.empty_append, joined,
          names_empty, List.nil_append]
      · -- The directory ends in a separator of its own.
        obtain ⟨front, letters⟩ := List.getLast?_eq_some_iff.mp (beq_iff_eq.mp last)
        have split : base = String.ofList front ++ "/" := by
          apply String.toList_injective
          simp [letters]
        have closing := names_append (String.ofList front) ""
        rw [String.append_empty] at closing
        rw [String.append_empty, split, names_append, joined, closing, names_empty,
          List.append_nil]
  · rw [names_append, joined]

end JavaScaffold.Path
