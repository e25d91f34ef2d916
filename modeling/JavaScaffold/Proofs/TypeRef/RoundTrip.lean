import JavaScaffold.Proofs.TypeRef.Tree
import Mathlib.Data.List.Forall2

/-!
# Reading back what is written

A well-formed reference is printed as its text, and reading that text gives the
reference back: the same names, brackets and wildcards at every node.

## Main Statements

* `TypeTree.read_text` — the text of a reference is read as that reference
* `TypeTree.toList_fullName` — the qualified form of a reference is its text
* `TypeTree.parse_fullName_toRef` — the round trip
-/

namespace JavaScaffold.TypeTree

variable {name : DottedName} {tail : List Char} {rank : Nat} {args : List TypeTree}

/-! ### The nodes -/

/-- What is written behind a name belongs to its last segment. -/
theorem ofName_append (name : DottedName) (noDot : '.' ∉ tail) (tight : Text.IsTight tail) :
    TypeNode.ofName (name.text ++ tail) =
      { qualifier := name.qualifier?, name := String.ofList (name.last.text ++ tail) } := by
  have noDotBehind : '.' ∉ name.last.text ++ tail := by
    rw [List.mem_append, not_or]
    refine ⟨fun member => ?_, noDot⟩
    exact (isNameChar_iff.mp (name.last.clean '.' member)).2.1 rfl
  rw [TypeNode.ofName, ((isTight_name name).append tight).trim_eq]
  rcases name.text_cases with ⟨undotted, same⟩ | ⟨front, dotted, parts⟩
  · rw [same, undotted, Text.splitLast_eq_none.mpr noDotBehind]
  · rw [parts, dotted, List.append_assoc, List.cons_append,
      Text.splitLast_append_cons front noDotBehind]

theorem bracketsOf_bracketPairs (rank : Nat) :
    TypeRef.bracketsOf (bracketPairs rank) = String.ofList (bracketPairs rank) := by
  rw [TypeRef.bracketsOf, (isTight_bracketPairs rank).trim_eq]
  cases rank with
  | zero => rfl
  | succ rank => rfl

/-- A text ends in a bracket when pairs of brackets stand behind it. -/
theorem endsInBracket_append_bracketPairs {front : List Char} (rank : Nat)
    (open' : TypeRef.endsInBracket front = false) :
    TypeRef.endsInBracket (front ++ bracketPairs rank) = (rank != 0) := by
  cases rank with
  | zero => rw [bracketPairs, List.replicate_zero, List.flatten_nil, List.append_nil, open']; rfl
  | succ rank =>
      rw [bracketPairs_succ, ← List.append_assoc, TypeRef.endsInBracket, List.getLast?_append]
      rfl

theorem endsInBracket_name (name : DottedName) : TypeRef.endsInBracket name.text = false := by
  rw [TypeRef.endsInBracket, beq_eq_false_iff_ne]
  intro last
  exact DottedName.not_mem_text (by decide) (by decide) (List.mem_of_getLast? last)

/-! ### Reading -/

/-- What is written behind the word of a bound does not start with a question
mark. -/
theorem wildcardOf?_body (name : DottedName) (tail : List Char) :
    TypeRef.wildcardOf? (name.text ++ tail) = none := by
  rw [TypeRef.wildcardOf?_eq_none_iff, List.head?_append_of_ne_nil _ name.text_ne_nil]
  intro marked
  exact DottedName.not_mem_text (by decide) (by decide) (List.mem_of_head? marked)

/-- The arguments of a reference are read one by one, whatever blanks stand in front
of them. -/
theorem readAll_spaced (each : ∀ a ∈ args, TypeRef.read a.text = .ok a.toRef) :
    TypeRef.readAll (spaced (args.map text)) = .ok (args.map toRef) := by
  rw [TypeRef.readAll_eq_ok_iff]
  cases args with
  | nil => exact .nil
  | cons a rest =>
      refine .cons (each a List.mem_cons_self) ?_
      rw [List.map_map, List.forall₂_map_left_iff, List.forall₂_map_right_iff,
        List.forall₂_same]
      intro b member
      have blank : Text.isBlankText [' '] = true := by decide
      exact (TypeRef.read_blanks_append blank b.text).trans
        (each b (List.mem_cons_of_mem _ member))

/-- No argument is blank, so none is dropped. -/
theorem splitArguments_spaced (some : args ≠ []) :
    splitArguments ([','].intercalate (spaced (args.map text))) =
      .some (spaced (args.map text)) := by
  have nonempty : args.map text ≠ [] := mt List.map_eq_nil_iff.mp some
  rw [splitArguments_intercalate (spaced_ne_nil nonempty) (isClosed_spaced _),
    dropBlankLast_of_last]
  · intro last found blank
    obtain ⟨t, member, front, -, rfl⟩ := mem_spaced (List.mem_of_getLast? found)
    obtain ⟨a, -, rfl⟩ := List.mem_map.mp member
    rw [Text.isBlankText, List.all_append, Bool.and_eq_true] at blank
    exact not_isBlankText_text a blank.2
  · intro t member
    obtain ⟨a, -, rfl⟩ := List.mem_map.mp member
    exact isClosed_text a

/-- **A name with its arguments and brackets** is read as the node it stands for. -/
theorem read_body (name : DottedName) (rank : Nat)
    (each : ∀ a ∈ args, TypeRef.read a.text = .ok a.toRef) :
    TypeRef.read (name.text ++ angled (args.map text) ++ bracketPairs rank) =
      .ok (node none name args rank).toRef := by
  have unmarked : TypeRef.wildcardOf?
      (Text.trim (name.text ++ angled (args.map text) ++ bracketPairs rank)) = none := by
    rw [(isTight_body name (args.map text) rank).trim_eq, List.append_assoc]
    exact wildcardOf?_body name _
  have noOpening : '<' ∉ name.text := DottedName.not_mem_text (by decide) (by decide)
  by_cases some : args = []
  · rw [some, List.map_nil, angled_nil, List.append_nil] at unmarked ⊢
    have plainText : '<' ∉ name.text ++ bracketPairs rank := by
      rw [List.mem_append, not_or]
      exact ⟨noOpening, not_mem_bracketPairs rank (by decide) (by decide)⟩
    rw [TypeRef.read_of_plain unmarked (Bracketing.of_of_not_mem plainText),
      ofName_append name (not_mem_bracketPairs rank (by decide) (by decide))
        (isTight_bracketPairs rank),
      endsInBracket_append_bracketPairs rank (endsInBracket_name name)]
    rfl
  · have nonempty : args.map text ≠ [] := mt List.map_eq_nil_iff.mp some
    have written := angled_of_ne_nil nonempty
    have cut : Bracketing.of (name.text ++ angled (args.map text) ++ bracketPairs rank) =
        .generic name.text ([','].intercalate (spaced (args.map text))) (bracketPairs rank) := by
      rw [written, List.append_assoc, List.cons_append, List.append_assoc, List.singleton_append]
      exact Bracketing.of_append noOpening _
        (not_mem_bracketPairs rank (by decide) (by decide))
    have lastBracket : TypeRef.endsInBracket
        (name.text ++ angled (args.map text) ++ bracketPairs rank) = (rank != 0) := by
      refine endsInBracket_append_bracketPairs rank ?_
      rw [written, ← List.cons_append, ← List.append_assoc, TypeRef.endsInBracket,
        List.getLast?_concat]
      rfl
    have nameOnly : TypeNode.ofName name.text =
        { qualifier := name.qualifier?, name := String.ofList name.last.text } := by
      have noDot : '.' ∉ bracketPairs 0 := List.not_mem_nil
      have whole := ofName_append name noDot (isTight_bracketPairs 0)
      rwa [bracketPairs_zero, List.append_nil, List.append_nil] at whole
    have someArgs : args.isEmpty = false := List.isEmpty_eq_false_iff.mpr some
    rw [TypeRef.read_of_generic unmarked cut (splitArguments_spaced some),
      readAll_spaced each, nameOnly, bracketsOf_bracketPairs, lastBracket, toRef,
      toRefs_eq_map, someArgs, if_neg Bool.false_ne_true, if_neg Bool.false_ne_true,
      List.append_nil]
    rfl

/-- **The text of a reference** is read as that reference. -/
theorem read_text (s : TypeTree) : TypeRef.read s.text = .ok s.toRef := by
  induction s using inductionOn with
  | anything =>
      have marked : TypeRef.wildcardOf? (Text.trim ['?']) = some (.unbounded, []) := rfl
      rw [text, TypeRef.read_of_wildcard marked, TypeRef.read_nil]
      rfl
  | node bound name args rank ih =>
      rw [text, texts_eq_map]
      cases bound with
      | none => exact read_body name rank ih
      | some form =>
          have bodyTight := isTight_body name (args.map text) rank
          have body : name.text ++ angled (args.map text) ++ bracketPairs rank ≠ [] :=
            List.append_ne_nil_of_left_ne_nil
              (List.append_ne_nil_of_left_ne_nil name.text_ne_nil _) _
          generalize written : name.text ++ angled (args.map text) ++ bracketPairs rank = cs
            at bodyTight body
          have behind : Text.trim (' ' :: (form.word.toList ++ cs)) = form.word.toList ++ cs := by
            have blank : Text.isBlankText [' '] = true := by decide
            have padded := Text.trim_blanks_append blank (form.word.toList ++ cs)
            rw [List.singleton_append] at padded
            rw [padded, (isTight_word_append form bodyTight body).trim_eq]
          have marked : TypeRef.wildcardOf? (Text.trim (boundText (some form) ++ cs)) =
              some (form.wildcard, cs) := by
            rw [(isTight_boundText_append form bodyTight body).trim_eq]
            exact TypeRef.wildcardOf?_of_word form behind
          rw [TypeRef.read_of_wildcard marked, ← written, read_body name rank ih]
          rfl

/-! ### Printing -/

/-- Arguments with a comma and a blank between them. -/
theorem intercalate_spaced (texts : List (List Char)) :
    [','].intercalate (spaced texts) = [',', ' '].intercalate texts := by
  cases texts with
  | nil => rfl
  | cons t ts =>
      induction ts generalizing t with
      | nil => rfl
      | cons t' ts ih =>
          have later := ih t'
          rw [spaced] at later ⊢
          rw [List.map_cons, List.intercalate_cons_cons, List.intercalate_cons_cons, ← later]
          cases ts with
          | nil => simp only [List.map_nil, List.intercalate_singleton, List.append_assoc]; rfl
          | cons t'' ts =>
              rw [List.map_cons, List.intercalate_cons_cons, List.intercalate_cons_cons]
              simp only [List.append_assoc, List.cons_append, List.nil_append]

theorem toList_assemble (base : String) (texts : List String) (brackets : String) :
    (TypeRef.assemble base texts brackets).toList =
      base.toList ++ angled (texts.map String.toList) ++ brackets.toList := by
  rw [TypeRef.assemble]
  cases texts with
  | nil =>
      rw [List.map_nil, angled_nil, List.append_nil]
      exact String.toList_append
  | cons t ts =>
      have nonempty : (t :: ts).map String.toList ≠ [] := List.cons_ne_nil _ _
      have opening : "<".toList = ['<'] := rfl
      have comma : ", ".toList = [',', ' '] := rfl
      have closing : ">".toList = ['>'] := rfl
      rw [angled_of_ne_nil nonempty, intercalate_spaced, List.isEmpty_cons,
        if_neg Bool.false_ne_true, String.toList_append, String.toList_append,
        String.toList_append, String.toList_append, String.toList_intercalate, opening, comma,
        closing]
      simp only [List.append_assoc, List.cons_append, List.nil_append]

/-- A bound is printed with its word in front. -/
theorem toList_behindWildcard {t : TypeNode} {bound : Option BoundForm}
    (marked : t.wildcard = bound.map BoundForm.wildcard) (name : String) :
    (t.behindWildcard name).toList = boundText bound ++ name.toList := by
  rw [TypeNode.behindWildcard, marked]
  cases bound with
  | none => rfl
  | some form =>
      cases form with
      | upper => exact String.toList_append
      | lower => exact String.toList_append

/-- The qualified name of a node is its dotted name, with the brackets that belong to
it. -/
theorem toList_qualifiedName_toRef (bound : Option BoundForm) (name : DottedName)
    (args : List TypeTree) (rank : Nat) :
    (node bound name args rank).toRef.qualifiedName.toList =
      name.text ++ if args.isEmpty then bracketPairs rank else [] := by
  rw [toRef, TypeNode.qualifiedName]
  dsimp only
  rcases name.text_cases with ⟨undotted, same⟩ | ⟨front, dotted, parts⟩
  · rw [undotted, same]
    exact String.toList_ofList
  · rw [dotted, parts]
    dsimp only
    rw [String.toList_append, String.toList_append, String.toList_ofList,
      String.toList_ofList, String.toList_ofList, List.append_assoc, List.append_assoc]
    rfl

/-- **The qualified form** of a reference is its text. -/
theorem toList_fullName (s : TypeTree) : s.toRef.fullName.toList = s.text := by
  induction s using inductionOn with
  | anything => rfl
  | node bound name args rank ih =>
      have fulls : (args.map toRef).map (String.toList ∘ TypeRef.fullName) = args.map text := by
        rw [List.map_map]
        exact List.map_congr_left ih
      have base : (node bound name args rank).toRef.fullBase.toList =
          boundText bound ++ (name.text ++ if args.isEmpty then bracketPairs rank else []) := by
        rw [TypeNode.fullBase, toList_behindWildcard (by rw [toRef]),
          toList_qualifiedName_toRef]
      rw [TypeRef.fullName_eq, toList_assemble, List.map_map, base, toRef, toRefs_eq_map, fulls,
        text, texts_eq_map]
      dsimp only
      by_cases some : args = []
      · rw [some, List.map_nil, angled_nil, List.append_nil, List.append_nil]
        exact List.append_nil _
      · rw [List.isEmpty_eq_false_iff.mpr some, if_neg Bool.false_ne_true,
          if_neg Bool.false_ne_true, List.append_nil, String.toList_ofList]
        simp only [List.append_assoc]

/-- **The round trip.**  A well-formed reference is printed as its text; that text is
read as the reference it came from, and is printed once more when that is printed. -/
theorem parse_fullName_toRef (s : TypeTree) :
    s.toRef.fullName = String.ofList s.text ∧
      ∃ t, TypeRef.parse s.toRef.fullName = .ok t ∧ t = s.toRef ∧
        t.fullName = String.ofList s.text := by
  have printed : s.toRef.fullName = String.ofList s.text := by
    rw [← toList_fullName, String.ofList_toList]
  refine ⟨printed, s.toRef, ?_, rfl, printed⟩
  rw [TypeRef.parse, toList_fullName]
  exact read_text s

end JavaScaffold.TypeTree
