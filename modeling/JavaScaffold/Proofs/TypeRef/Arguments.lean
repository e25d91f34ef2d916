import JavaScaffold.Proofs.TypeRef.Commas
import JavaScaffold.Proofs.TypeRef.Reading
import Mathlib.Data.List.Forall2
import Mathlib.Logic.Relation

/-!
# The arguments of what has been read

Reading a specification gives a tree, and each of its nodes has been read from a text
of its own: the root from the specification, and an argument from its piece of the
text between the brackets above it.  This module follows the texts down the tree, and
says what the brackets and commas of a text have to do with the node.

## Main Definitions

* `TypeRef.argumentTexts` — the texts of the arguments in a specification
* `TypeRef.IsArgument` — from a reference and its text to an argument and its text
* `TypeRef.CountsCommas` — a reference with as many arguments as its text has commas
  for
* `TypeRef.KeepsDelimiters` — a node without the delimiters of its text

## Main Statements

* `TypeRef.read_parts`, `TypeRef.read_shape` — what of a text goes into which part of the
  reference
* `TypeRef.parse_arguments` — the two laws for every reference that has been read
* `TypeRef.parse_delimiter_in_name` — an argument can be called `b>,c`

## Design Notes

The outer brackets of a text are its first opening and its last closing one, whether
they match or not.  They match when the depth of the text never dips, and only then
does a name end where the brackets begin.
-/

namespace JavaScaffold

namespace TypeRef

open Relation

variable {spec text bound name arguments trailing front back : List Char}
  {segments : List (List Char)} {t u v : TypeRef}

/-! ### What is read from a text -/

/-- **What a cut text gives.**  A text without brackets is a name; in one with
brackets, the name comes from what stands before them, the arguments from what stands
between them, and array brackets from what follows. -/
inductive IsReadFrom : Bracketing → TypeRef → Prop
  | plain {name : List Char} {t : TypeRef} (alone : t.args = []) (bare : t.brackets = "")
      (part : t.qualifiedName.toList ⊆ name) : IsReadFrom (.plain name) t
  | generic {name arguments trailing : List Char} {segments : List (List Char)} {t : TypeRef}
      (split : splitArguments arguments = some segments) (each : readAll segments = .ok t.args)
      (part : t.qualifiedName.toList ⊆ name) (behind : t.brackets.toList ⊆ trailing) :
      IsReadFrom (.generic name arguments trailing) t

/-- A wildcard is read from its bound and the text around it. -/
theorem IsReadFrom.around {cut : Bracketing} (below : IsReadFrom cut t) (w : Wildcard)
    (front back : List Char) :
    IsReadFrom (cut.around front back) { t with wildcard := some w } := by
  cases below with
  | @plain name _ alone bare part =>
      refine .plain alone bare fun c member => ?_
      exact List.mem_append_left _ (List.mem_append_right _ (part member))
  | @generic name arguments trailing segments _ split each part behind =>
      refine .generic split each (fun c member => ?_) fun c member => ?_
      · exact List.mem_append_right _ (part member)
      · exact List.mem_append_left _ (behind member)

theorem toList_bracketsOf_subset (trailing : List Char) :
    (bracketsOf trailing).toList ⊆ trailing := by
  rw [bracketsOf]
  split
  · rw [String.toList_ofList]
    exact Text.trim_subset trailing
  · exact List.nil_subset _

theorem toList_qualifiedName_ofName_subset (name : List Char) :
    (TypeNode.ofName name).qualifiedName.toList ⊆ name := by
  rw [toList_qualifiedName_ofName]
  exact Text.trim_subset name

/-- **What has been read** comes from the parts of the text, wildcards included. -/
theorem read_parts (done : read spec = .ok t) : IsReadFrom (Bracketing.of spec) t := by
  induction shorter : spec.length using Nat.strong_induction_on generalizing spec t with
  | _ length ih =>
      rcases read_cases done with
        ⟨w, bound, b, marked, inner, rfl⟩ | ⟨-, plainText, rfl⟩ |
          ⟨-, name, arguments, trailing, segments, args, cut, split, each, rfl⟩
      · -- The bound is shorter, and the text around it holds no opening bracket.
        have fewer : bound.length < length := shorter ▸ length_wildcardOf?_lt marked
        obtain ⟨front, back, plainFront, blankBack, rfl⟩ := exists_around_bound marked
        rw [Bracketing.of_around plainFront bound (Text.not_mem_of_isBlankText blankBack rfl)
          (Text.not_mem_of_isBlankText blankBack rfl)]
        exact (ih bound.length fewer inner rfl).around w front back
      · rw [Bracketing.of_of_not_mem plainText]
        refine .plain rfl ?_ (toList_qualifiedName_ofName_subset spec)
        exact brackets_ofName spec
      · rw [cut]
        exact .generic split each (toList_qualifiedName_ofName_subset name)
          (toList_bracketsOf_subset trailing)

/-- **The two kinds of texts** that can be read, with what goes where. -/
theorem read_shape (done : read spec = .ok t) :
    (Bracketing.of spec = .plain spec ∧ t.args = [] ∧ t.brackets = "" ∧
        t.qualifiedName.toList ⊆ spec) ∨
      ∃ name arguments trailing segments,
        Bracketing.of spec = .generic name arguments trailing ∧
        splitArguments arguments = some segments ∧ readAll segments = .ok t.args ∧
        t.qualifiedName.toList ⊆ name ∧ t.brackets.toList ⊆ trailing := by
  have parts := read_parts done
  generalize cut : Bracketing.of spec = found at parts
  cases parts with
  | plain alone bare part =>
      obtain ⟨rfl, -⟩ := Bracketing.eq_of_eq_plain cut
      exact .inl ⟨rfl, alone, bare, part⟩
  | generic split each part behind =>
      exact .inr ⟨_, _, _, _, rfl, split, each, part, behind⟩

/-! ### The texts of the arguments -/

/-- The texts of the arguments in a specification; there are none in a text that
cannot be cut and taken apart. -/
def argumentTexts (spec : List Char) : List (List Char) :=
  match Bracketing.of spec with
  | .generic _ arguments _ => (splitArguments arguments).getD []
  | .plain _ | .unclosed => []

/-- **One step down**: from a text and what has been read from it to the text of an
argument and that argument. -/
def IsArgument (outer inner : List Char × TypeRef) : Prop :=
  inner ∈ (argumentTexts outer.1).zip outer.2.args

/-- The arguments of what has been read are read from their texts. -/
theorem forall₂_argumentTexts (done : read spec = .ok t) :
    List.Forall₂ (fun s a => read s = .ok a) (argumentTexts spec) t.args := by
  rw [argumentTexts]
  rcases read_shape done with
    ⟨cut, alone, -⟩ | ⟨name, arguments, trailing, segments, cut, split, each, -⟩
  · rw [cut, alone]
    exact .nil
  · rw [cut]
    dsimp only
    rw [split]
    exact readAll_eq_ok_iff.mp each

/-- **A step down** leads to a text that reads as its argument, and that is passed at
depth zero. -/
theorem IsArgument.read {a : List Char} (step : IsArgument (text, u) (a, v))
    (done : read text = .ok u) : TypeRef.read a = .ok v ∧ Passes 0 a 0 := by
  refine ⟨(List.forall₂_iff_zip.mp (forall₂_argumentTexts done)).2 step, ?_⟩
  have member := (List.of_mem_zip step).1
  rw [argumentTexts] at member
  split at member
  · next name arguments trailing cut =>
      cases split : splitArguments arguments with
      | none =>
          rw [split] at member
          cases member
      | some segments =>
          rw [split] at member
          exact passes_of_mem_splitArguments split member
  · cases member
  · cases member

/-- Every argument of what has been read has a text. -/
theorem exists_isArgument (done : read text = .ok u) (member : v ∈ u.args) :
    ∃ a, IsArgument (text, u) (a, v) := by
  obtain ⟨i, inside, rfl⟩ := List.getElem_of_mem member
  have same : (argumentTexts text).length = u.args.length :=
    (forall₂_argumentTexts done).length_eq
  have both : i < ((argumentTexts text).zip u.args).length := by
    rw [List.length_zip, same, Nat.min_self]
    exact inside
  refine ⟨(argumentTexts text)[i], List.mem_iff_getElem.mpr ⟨i, both, ?_⟩⟩
  exact List.getElem_zip

/-- **Down the tree**, every text reads as its node. -/
theorem read_of_reaches {start stop : List Char × TypeRef}
    (path : ReflTransGen IsArgument start stop) (done : read start.1 = .ok start.2) :
    read stop.1 = .ok stop.2 := by
  induction path with
  | refl => exact done
  | tail _ step ih => exact (step.read ih).1

/-- Every node of what has been read has a text. -/
theorem exists_reaches (done : read text = .ok t) (member : v ∈ t.nodes) :
    ∃ a, ReflTransGen IsArgument (text, t) (a, v) := by
  induction t using inductionOn generalizing text with
  | node t ih =>
      rw [nodes_eq, List.mem_append, List.mem_flatMap, List.mem_singleton] at member
      rcases member with ⟨b, argument, inside⟩ | rfl
      · obtain ⟨s, step⟩ := exists_isArgument done argument
        obtain ⟨a, path⟩ := ih b argument (step.read done).1 inside
        exact ⟨a, path.head step⟩
      · exact ⟨text, .refl⟩

/-! ### The commas of a text -/

/-- **As many arguments as the commas say**: one more than there are outer commas
between the brackets, and one less when the last part is blank; none without
brackets. -/
def CountsCommas (text : List Char) (t : TypeRef) : Prop :=
  match Bracketing.of text with
  | .plain _ => t.args = []
  | .unclosed => False
  | .generic _ arguments _ =>
    t.args.length + (if Text.isBlankText (lastPart arguments) then 1 else 0) =
      outerCommas arguments + 1

theorem countsCommas_of_read (done : read text = .ok t) : CountsCommas text t := by
  rw [CountsCommas]
  rcases read_shape done with
    ⟨cut, alone, -⟩ | ⟨name, arguments, trailing, segments, cut, split, each, -⟩
  · rw [cut]
    exact alone
  · rw [cut]
    dsimp only
    rw [← length_splitArguments split, (readAll_eq_ok_iff.mp each).length_eq]

/-! ### The delimiters of a text -/

/-- **A node without the delimiters of its text.**  No opening bracket gets into the
name and no closing one behind the arguments; from a text that never dips, no
delimiter gets into either of them. -/
structure KeepsDelimiters (text : List Char) (n : TypeNode) : Prop where
  name : '<' ∉ n.qualifiedName.toList
  behind : '>' ∉ n.brackets.toList
  nested : NeverDips text →
    ∀ c ∈ ['<', '>', ','], c ∉ n.qualifiedName.toList ∧ c ∉ n.brackets.toList

/-- What stands before the brackets of a text that never dips, and after them. -/
theorem free_of_neverDips (cut : Bracketing.of text = .generic name arguments trailing)
    (passed : Passes 0 text 0) (nested : NeverDips text) :
    '>' ∉ name ∧ ',' ∉ name ∧ '<' ∉ trailing ∧ ',' ∉ trailing := by
  obtain ⟨noOpening, noClosing⟩ := Bracketing.not_mem_of_eq_generic cut
  have parts : text = (name ++ '<' :: (arguments ++ ['>'])) ++ trailing := by
    rw [Bracketing.of_eq_generic cut]
    simp
  have level := passed.depth_eq
  have before := nested (name ++ '<' :: (arguments ++ ['>'])) ⟨trailing, parts.symm⟩
  rw [parts, depth_append, Int.zero_add] at level
  have closed : '>' ∉ name := by
    intro member
    have down := depth_neg noOpening member
    have up := nested name ⟨_, (Bracketing.of_eq_generic cut).symm⟩
    omega
  have opened : '<' ∉ trailing := by
    intro member
    have up := depth_pos noClosing member
    omega
  refine ⟨closed, fun comma => ?_, opened, fun comma => ?_⟩
  · obtain ⟨pre, post, rfl⟩ := List.append_of_mem comma
    rw [Bracketing.of_eq_generic cut, List.append_assoc, List.cons_append] at passed
    refine passed.depth_comma_ne ?_
    rw [Int.zero_add]
    exact depth_eq_zero (fun member => noOpening (List.mem_append_left _ member))
      fun member => closed (List.mem_append_left _ member)
  · obtain ⟨pre, post, rfl⟩ := List.append_of_mem comma
    rw [parts, ← List.append_assoc] at passed
    have flat := depth_eq_zero opened noClosing
    have flatPre : depth pre = 0 :=
      depth_eq_zero (fun member => opened (List.mem_append_left _ member))
        fun member => noClosing (List.mem_append_left _ member)
    refine passed.depth_comma_ne ?_
    rw [depth_append]
    omega

/-- A text without opening brackets that is passed holds no delimiter at all. -/
theorem free_of_plain (plainText : '<' ∉ text) (passed : Passes 0 text 0) :
    '>' ∉ text ∧ ',' ∉ text := by
  have level := passed.depth_eq
  have closed : '>' ∉ text := by
    intro member
    have down := depth_neg plainText member
    omega
  refine ⟨closed, fun comma => ?_⟩
  obtain ⟨pre, post, rfl⟩ := List.append_of_mem comma
  refine passed.depth_comma_ne ?_
  rw [Int.zero_add]
  exact depth_eq_zero (fun member => plainText (List.mem_append_left _ member))
    fun member => closed (List.mem_append_left _ member)

theorem keepsDelimiters_of_read (done : read text = .ok t) (passed : Passes 0 text 0) :
    KeepsDelimiters text t.toTypeNode := by
  rcases read_shape done with
    ⟨cut, -, bare, part⟩ | ⟨name, arguments, trailing, segments, cut, -, -, part, behind⟩
  · have plainText := (Bracketing.eq_of_eq_plain cut).2
    obtain ⟨noClosing, noComma⟩ := free_of_plain plainText passed
    have free : ∀ c ∈ ['<', '>', ','], c ∉ t.qualifiedName.toList := by
      intro c delimiter member
      simp only [List.mem_cons, List.not_mem_nil, or_false] at delimiter
      rcases delimiter with rfl | rfl | rfl
      · exact plainText (part member)
      · exact noClosing (part member)
      · exact noComma (part member)
    refine ⟨free '<' List.mem_cons_self, ?_, fun _ c delimiter => ⟨free c delimiter, ?_⟩⟩
    · rw [bare]
      exact List.not_mem_nil
    · rw [bare]
      exact List.not_mem_nil
  · obtain ⟨noOpening, noClosing⟩ := Bracketing.not_mem_of_eq_generic cut
    refine ⟨fun member => noOpening (part member), fun member => noClosing (behind member),
      fun nested c delimiter => ?_⟩
    obtain ⟨noClosing', noComma, noOpening', noComma'⟩ := free_of_neverDips cut passed nested
    simp only [List.mem_cons, List.not_mem_nil, or_false] at delimiter
    rcases delimiter with rfl | rfl | rfl
    · exact ⟨fun member => noOpening (part member), fun member => noOpening' (behind member)⟩
    · exact ⟨fun member => noClosing' (part member), fun member => noClosing (behind member)⟩
    · exact ⟨fun member => noComma (part member), fun member => noComma' (behind member)⟩

/-! ### Both laws -/

/-- **Arguments and delimiters.**  Every node of what has been read has a text of its own,
from which it can be read.  Each has as many arguments as the outer commas of its text
say.  Below the root, no node has an opening bracket in its name or a closing one behind
its arguments, and none at all has a delimiter there whose text never dips. -/
theorem parse_arguments (spec : String) (t : TypeRef) (done : parse spec = .ok t) :
    (∀ v ∈ t.nodes, ∃ a, ReflTransGen IsArgument (spec.toList, t) (a, v)) ∧
      (∀ a v, ReflTransGen IsArgument (spec.toList, t) (a, v) →
        read a = .ok v ∧ CountsCommas a v) ∧
      ∀ a v, TransGen IsArgument (spec.toList, t) (a, v) → KeepsDelimiters a v.toTypeNode := by
  refine ⟨fun v member => exists_reaches done member, fun a v path => ?_, fun a v path => ?_⟩
  · have here : read a = .ok v := read_of_reaches path done
    exact ⟨here, countsCommas_of_read here⟩
  · obtain ⟨⟨s, u⟩, above, step⟩ := TransGen.tail'_iff.mp path
    obtain ⟨here, passed⟩ := step.read (read_of_reaches above done)
    exact keepsDelimiters_of_read here passed

/-- The arguments of a map, with blanks around the comma. -/
theorem parse_arguments_map :
    ∃ t, parse "Map<K, List<V[]>, >" = .ok t ∧
      (∀ v ∈ t.nodes, ∃ a, ReflTransGen IsArgument ("Map<K, List<V[]>, >".toList, t) (a, v)) ∧
        (∀ a v, ReflTransGen IsArgument ("Map<K, List<V[]>, >".toList, t) (a, v) →
          read a = .ok v ∧ CountsCommas a v) ∧
        ∀ a v, TransGen IsArgument ("Map<K, List<V[]>, >".toList, t) (a, v) →
          KeepsDelimiters a v.toTypeNode := by
  obtain ⟨t, done, -⟩ : ∃ t, parse "Map<K, List<V[]>, >" = .ok t ∧ t.args.length = 2 :=
    exists_eq_ok (by decide +kernel)
  exact ⟨t, done, parse_arguments _ t done⟩

/-- **Delimiters can get into a node.**  The text between the brackets of `A` comes back to
depth zero, so it is one argument.  That is cut at its own first opening and last closing
bracket, and what stands in front of the one and behind the other is kept. -/
theorem parse_delimiter_in_name :
    ∃ t, parse "A<b>,c<d>[,<f>" = .ok t ∧
      t.args.map (fun a => (a.qualifiedName, a.brackets)) = [("b>,c", "[,<f")] :=
  exists_eq_ok (by decide +kernel)

end TypeRef

end JavaScaffold
