import JavaScaffold.Proofs.TypeRef.Reading

/-!
# Well-formed references

A well-formed reference is written with dotted names, argument lists, pairs of array
brackets and wildcards, and with nothing else.  It is a tree, and the tree carries
its own well-formedness: its names are made of segments that hold at least one
character, and none of the characters that the notation itself is made of.

## Main Definitions

* `Segment`, `DottedName` — the names
* `TypeTree` — the tree of a reference
* `TypeTree.text` — how a reference is written
* `TypeTree.toRef` — what its nodes say

## Main Statements

* `TypeTree.inductionOn` — induction on a tree through its arguments
* `TypeTree.isTight_body` — what is written behind a bound has no blanks at its ends
* `TypeTree.isClosed_text` — a written reference can stand in an argument list

## Design Notes

The brackets of a type without arguments belong to its name, and those behind
arguments do not, so a tree has its rank and `toRef` puts the brackets where they
belong.
-/

namespace JavaScaffold

/-! ### Names -/

/-- Whether `c` can stand in a segment of a name: it is no blank, and the notation of
types does not use it. -/
def isNameChar (c : Char) : Bool :=
  !Text.isBlank c && !(['.', '<', '>', ',', '?', '[', ']'].contains c)

/-- A part of a dotted name. -/
structure Segment where
  text : List Char
  nonempty : text ≠ []
  clean : ∀ c ∈ text, isNameChar c = true

/-- A dotted name: its last segment, and those in front of it. -/
structure DottedName where
  front : List Segment
  last : Segment

theorem isNameChar_iff {c : Char} :
    isNameChar c = true ↔
      Text.isBlank c = false ∧ c ≠ '.' ∧ c ≠ '<' ∧ c ≠ '>' ∧ c ≠ ',' ∧ c ≠ '?' ∧ c ≠ '[' ∧
        c ≠ ']' := by
  simp only [isNameChar, Bool.and_eq_true, Bool.not_eq_true', List.contains_eq_mem,
    decide_eq_false_iff_not, List.mem_cons, List.not_mem_nil, or_false, not_or, ne_eq]

namespace DottedName

variable {n : DottedName} {c : Char}

/-- The segments with dots between them. -/
def text (n : DottedName) : List Char :=
  ['.'].intercalate ((n.front ++ [n.last]).map Segment.text)

/-- What stands before the last dot, if there is one. -/
def qualifier? (n : DottedName) : Option String :=
  if n.front.isEmpty then none
  else some (String.ofList (['.'].intercalate (n.front.map Segment.text)))

/-- The name with one dot less: either there is none, or the last segment stands
behind a dot. -/
theorem text_cases (n : DottedName) :
    (n.qualifier? = none ∧ n.text = n.last.text) ∨
      ∃ front, n.qualifier? = some (String.ofList front) ∧
        n.text = front ++ '.' :: n.last.text := by
  rw [qualifier?, text]
  cases n.front with
  | nil => exact .inl ⟨rfl, List.intercalate_singleton⟩
  | cons s ss =>
      refine .inr ⟨['.'].intercalate ((s :: ss).map Segment.text), rfl, ?_⟩
      -- The dots between the segments, one segment after the other.
      induction ss generalizing s with
      | nil =>
          rw [List.cons_append, List.nil_append, List.map_cons, List.map_singleton,
            List.map_singleton, List.intercalate_cons_cons, List.intercalate_singleton,
            List.intercalate_singleton, List.append_assoc, List.singleton_append]
      | cons s' ss ih =>
          have later := ih s'
          simp only [List.cons_append, List.map_cons] at later ⊢
          rw [List.intercalate_cons_cons, later, List.intercalate_cons_cons, List.append_assoc,
            List.append_assoc, List.append_assoc]

/-- Every character of a name is a character of a segment, or a dot. -/
theorem mem_text (member : c ∈ n.text) : isNameChar c = true ∨ c = '.' := by
  rcases Text.mem_intercalate member with dot | ⟨piece, found, here⟩
  · exact .inr dot
  · obtain ⟨s, -, rfl⟩ := List.mem_map.mp found
    exact .inl (s.clean c here)

/-- A character that the notation uses for something else is not in a name. -/
theorem not_mem_text (special : isNameChar c = false) (noDot : c ≠ '.') : c ∉ n.text := by
  intro member
  rcases mem_text member with clean | dot
  · rw [special] at clean
    cases clean
  · exact noDot dot

theorem text_ne_nil (n : DottedName) : n.text ≠ [] := by
  rcases n.text_cases with ⟨-, h⟩ | ⟨front, -, h⟩
  · rw [h]
    exact n.last.nonempty
  · rw [h]
    exact List.append_ne_nil_of_right_ne_nil _ (List.cons_ne_nil _ _)

end DottedName

/-- The text of `rank` pairs of array brackets. -/
def bracketPairs (rank : Nat) : List Char :=
  (List.replicate rank ['[', ']']).flatten

theorem mem_bracketPairs {c : Char} {rank : Nat} (member : c ∈ bracketPairs rank) :
    c = '[' ∨ c = ']' := by
  obtain ⟨pair, found, here⟩ := List.mem_flatten.mp member
  rw [List.eq_of_mem_replicate found] at here
  rcases List.mem_cons.mp here with opening | here
  · exact .inl opening
  · exact .inr (List.mem_singleton.mp here)

theorem not_mem_bracketPairs {c : Char} (rank : Nat) (noOpening : c ≠ '[') (noClosing : c ≠ ']') :
    c ∉ bracketPairs rank :=
  fun member => (mem_bracketPairs member).elim noOpening noClosing

theorem bracketPairs_zero : bracketPairs 0 = [] := rfl

theorem bracketPairs_succ (rank : Nat) :
    bracketPairs (rank + 1) = bracketPairs rank ++ ['[', ']'] := by
  rw [bracketPairs, List.replicate_succ', List.flatten_append, ← bracketPairs]
  rfl

/-! ### Trees -/

/-- **A well-formed reference**: the unbounded wildcard, or a name, possibly as the
bound of a wildcard, with arguments and pairs of array brackets. -/
inductive TypeTree
  | anything
  | node (bound : Option BoundForm) (name : DottedName) (args : List TypeTree) (rank : Nat)

namespace TypeTree

/-- **Induction on a reference**: a property that passes from the arguments to the
node above them holds of every reference. -/
theorem inductionOn {motive : TypeTree → Prop} (s : TypeTree) (anything : motive .anything)
    (node : ∀ bound name args rank, (∀ a ∈ args, motive a) → motive (.node bound name args rank)) :
    motive s := by
  cases s with
  | anything => exact anything
  | node bound name args rank =>
      exact node bound name args rank fun a member => inductionOn a anything node
termination_by sizeOf s
decreasing_by
  have smaller := List.sizeOf_lt_of_mem member
  simp only [TypeTree.node.sizeOf_spec]
  omega

/-- What stands in front of the name of a bound. -/
def boundText : Option BoundForm → List Char
  | none => []
  | some form => '?' :: ' ' :: form.word.toList

/-- The texts of some arguments as they stand between the commas: with a blank in
front of all but the first one. -/
def spaced : List (List Char) → List (List Char)
  | [] => []
  | t :: ts => t :: ts.map (' ' :: ·)

/-- The texts of some arguments between angle brackets; nothing without arguments. -/
def angled (texts : List (List Char)) : List Char :=
  if texts.isEmpty then [] else '<' :: ([','].intercalate (spaced texts) ++ ['>'])

mutual

/-- How a reference is written. -/
def text : TypeTree → List Char
  | anything => ['?']
  | node bound name args rank =>
    boundText bound ++ (name.text ++ angled (texts args) ++ bracketPairs rank)

/-- How the arguments of a reference are written. -/
def texts : List TypeTree → List (List Char)
  | [] => []
  | s :: ss => s.text :: texts ss

end

mutual

/-- What the nodes of a reference say. -/
def toRef : TypeTree → TypeRef
  | anything => { qualifier := none, name := "", wildcard := some .unbounded }
  | node bound name args rank =>
    { qualifier := name.qualifier?
      name := String.ofList (name.last.text ++ if args.isEmpty then bracketPairs rank else [])
      brackets := if args.isEmpty then "" else String.ofList (bracketPairs rank)
      isArray := rank != 0
      wildcard := bound.map BoundForm.wildcard
      args := toRefs args }

/-- What the arguments of a reference say. -/
def toRefs : List TypeTree → List TypeRef
  | [] => []
  | s :: ss => s.toRef :: toRefs ss

end

theorem texts_eq_map (ss : List TypeTree) : texts ss = ss.map text := by
  induction ss with
  | nil => rfl
  | cons s ss ih => rw [texts, ih, List.map_cons]

theorem toRefs_eq_map (ss : List TypeTree) : toRefs ss = ss.map toRef := by
  induction ss with
  | nil => rfl
  | cons s ss ih => rw [toRefs, ih, List.map_cons]

theorem args_toRef_node (bound : Option BoundForm) (name : DottedName) (args : List TypeTree)
    (rank : Nat) : (node bound name args rank).toRef.args = args.map toRef := by
  rw [toRef, toRefs_eq_map]

/-- The nodes of a reference are those of its arguments, and its root. -/
theorem forall_mem_nodes_node {p : TypeRef → Prop} (bound : Option BoundForm) (name : DottedName)
    (args : List TypeTree) (rank : Nat) :
    (∀ t ∈ (node bound name args rank).toRef.nodes, p t) ↔
      (∀ a ∈ args, ∀ t ∈ a.toRef.nodes, p t) ∧ p (node bound name args rank).toRef := by
  rw [TypeRef.nodes_eq, List.forall_mem_append, List.forall_mem_singleton, args_toRef_node,
    List.forall_mem_flatMap, List.forall_mem_map]

theorem angled_nil : angled [] = [] := rfl

theorem angled_of_ne_nil {texts : List (List Char)} (some : texts ≠ []) :
    angled texts = '<' :: ([','].intercalate (spaced texts) ++ ['>']) := by
  rw [angled, if_neg]
  rwa [List.isEmpty_iff]

theorem mem_spaced {texts : List (List Char)} {t : List Char} (member : t ∈ spaced texts) :
    ∃ s ∈ texts, ∃ front, Text.isBlankText front = true ∧ t = front ++ s := by
  cases texts with
  | nil => cases member
  | cons s ss =>
      rcases List.mem_cons.mp member with rfl | later
      · exact ⟨t, List.mem_cons_self, [], rfl, rfl⟩
      · obtain ⟨s', found, rfl⟩ := List.mem_map.mp later
        exact ⟨s', List.mem_cons_of_mem _ found, [' '], by decide, rfl⟩

theorem spaced_ne_nil {texts : List (List Char)} (some : texts ≠ []) : spaced texts ≠ [] := by
  cases texts with
  | nil => exact absurd rfl some
  | cons s ss => exact List.cons_ne_nil _ _

/-! ### The ends of a written reference -/

theorem isTight_name (name : DottedName) : Text.IsTight name.text := by
  refine Text.isTight_of_forall fun c member => ?_
  rcases name.mem_text member with clean | rfl
  · exact (isNameChar_iff.mp clean).1
  · decide

theorem isTight_bracketPairs (rank : Nat) : Text.IsTight (bracketPairs rank) := by
  refine Text.isTight_of_forall fun c member => ?_
  rcases mem_bracketPairs member with rfl | rfl
  · decide
  · decide

theorem isTight_angled (texts : List (List Char)) : Text.IsTight (angled texts) := by
  rw [angled]
  split
  · exact ⟨nofun, nofun⟩
  · refine ⟨fun c member => ?_, fun c member => ?_⟩
    · cases member
      decide
    · rw [← List.cons_append, List.getLast?_concat] at member
      cases member
      decide

/-- What is written behind the word of a bound has no blanks at its ends. -/
theorem isTight_body (name : DottedName) (texts : List (List Char)) (rank : Nat) :
    Text.IsTight (name.text ++ angled texts ++ bracketPairs rank) :=
  ((isTight_name name).append (isTight_angled texts)).append (isTight_bracketPairs rank)

/-- A word in front of a text without blanks at its ends has none either. -/
theorem isTight_word_append (form : BoundForm) {cs : List Char} (tight : Text.IsTight cs)
    (nonempty : cs ≠ []) : Text.IsTight (form.word.toList ++ cs) where
  first := by
    intro c member
    cases form with
    | upper =>
        cases member
        decide
    | lower =>
        cases member
        decide
  last := by
    intro c member
    rw [List.getLast?_append_of_ne_nil _ nonempty] at member
    exact tight.last c member

theorem isTight_boundText_append (form : BoundForm) {cs : List Char} (tight : Text.IsTight cs)
    (nonempty : cs ≠ []) : Text.IsTight (boundText (some form) ++ cs) where
  first := by
    intro c member
    cases member
    decide
  last := by
    intro c member
    rw [List.getLast?_append_of_ne_nil _ nonempty] at member
    exact tight.last c member

/-! ### Written references in argument lists -/

theorem isClosed_name (name : DottedName) : IsClosed name.text := by
  refine isClosed_of_forall fun c member => ?_
  rcases name.mem_text member with clean | rfl
  · obtain ⟨-, -, noOpening, noClosing, noComma, -⟩ := isNameChar_iff.mp clean
    exact ⟨noComma, noOpening, noClosing⟩
  · decide

theorem isClosed_bracketPairs (rank : Nat) : IsClosed (bracketPairs rank) := by
  refine isClosed_of_forall fun c member => ?_
  rcases mem_bracketPairs member with rfl | rfl
  · decide
  · decide

theorem isClosed_boundText (bound : Option BoundForm) : IsClosed (boundText bound) := by
  cases bound with
  | none => exact isClosed_nil
  | some form =>
      cases form with
      | upper => exact isClosed_of_all (by decide)
      | lower => exact isClosed_of_all (by decide)

theorem isClosed_spaced {texts : List (List Char)} (closed : ∀ t ∈ texts, IsClosed t) :
    ∀ t ∈ spaced texts, IsClosed t := by
  intro t member
  obtain ⟨s, found, front, blank, rfl⟩ := mem_spaced member
  refine IsClosed.append (isClosed_of_forall fun c here => ?_) (closed s found)
  refine ⟨?_, ?_, ?_⟩
  all_goals
    rintro rfl
    exact Text.not_mem_of_isBlankText blank rfl here

/-- **A written reference** can stand in an argument list. -/
theorem isClosed_text (s : TypeTree) : IsClosed s.text := by
  induction s using inductionOn with
  | anything =>
      rw [text]
      exact isClosed_of_all (by decide)
  | node bound name args rank ih =>
      rw [text, texts_eq_map]
      have closedAngled : IsClosed (angled (args.map text)) := by
        rw [angled]
        split
        · exact isClosed_nil
        · refine IsClosed.angles (isClosed_spaced fun t member => ?_)
          obtain ⟨a, found, rfl⟩ := List.mem_map.mp member
          exact ih a found
      exact (isClosed_boundText bound).append
        (((isClosed_name name).append closedAngled).append (isClosed_bracketPairs rank))

/-- A written reference holds a character that is not blank. -/
theorem not_isBlankText_text (s : TypeTree) : ¬ Text.isBlankText s.text = true := by
  intro blank
  have allBlank := Text.isBlankText_iff.mp blank
  cases s with
  | anything => exact absurd (allBlank '?' (by rw [text]; exact List.mem_cons_self)) (by decide)
  | node bound name args rank =>
      obtain ⟨c, member⟩ := List.exists_mem_of_ne_nil _ name.text_ne_nil
      have isBlank : Text.isBlank c = true := by
        refine allBlank c ?_
        rw [text]
        exact List.mem_append_right _ (List.mem_append_left _ (List.mem_append_left _ member))
      rcases name.mem_text member with clean | rfl
      · rw [(isNameChar_iff.mp clean).1] at isBlank
        cases isBlank
      · exact absurd isBlank (by decide)

end TypeTree

end JavaScaffold
