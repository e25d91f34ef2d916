import JavaScaffold.Proofs.KotlinType
import JavaScaffold.Proofs.TypeRef.RoundTrip

/-!
# The counterpart of a node

The counterpart of a Java node depends on its qualified name, which is the dotted name
and, without arguments, the array brackets.  There are three kinds of names: that of a
primitive type, that of a box or of the class of strings, and all others.

## Main Definitions

* `TypeTree.ownRank` — the array brackets that are a part of the name
* `KotlinType.keptName` — a name that is kept
* `KotlinType.ofJavaBase` — the counterpart of a dotted name with array brackets

## Main Statements

* `KotlinType.counterpart?_cases` — the three kinds of names
* `KotlinType.ofJava_node` — the counterpart of a well-formed reference
-/

namespace JavaScaffold

/-- The first segment of the names of the standard library. -/
def Segment.java : Segment :=
  ⟨"java".toList, by decide, List.all_eq_true.mp (by decide)⟩

namespace TypeTree

/-- The array brackets that are a part of the name: all of them without arguments, and
none with arguments. -/
def ownRank (args : List TypeTree) (rank : Nat) : Nat :=
  if args.isEmpty then rank else 0

/-- The reference `java.util.List` with an argument, in array brackets. -/
def listOf (element : TypeTree) (rank : Nat) : TypeTree :=
  node none
    { front := [.java, ⟨"util".toList, by decide, List.all_eq_true.mp (by decide)⟩]
      last := ⟨"List".toList, by decide, List.all_eq_true.mp (by decide)⟩ }
    [element] rank

theorem toList_qualifiedName_eq (bound : Option BoundForm) (name : DottedName)
    (args : List TypeTree) (rank : Nat) :
    (node bound name args rank).toRef.qualifiedName.toList =
      name.text ++ bracketPairs (ownRank args rank) := by
  rw [toList_qualifiedName_toRef, ownRank]
  split
  · rfl
  · rfl

end TypeTree

/-- A dotted name has no empty package. -/
theorem DottedName.qualifier?_ne_empty (name : DottedName) : name.qualifier? ≠ some "" := by
  rw [DottedName.qualifier?]
  cases name.front with
  | nil => exact (Option.some_ne_none _).symm
  | cons s ss =>
      intro empty
      have nothing := congrArg String.toList (Option.some.inj empty)
      rw [String.toList_ofList, List.map_cons] at nothing
      cases ss with
      | nil =>
          rw [List.map_nil, List.intercalate_singleton] at nothing
          exact s.nonempty nothing
      | cons s' ss =>
          rw [List.map_cons, List.intercalate_cons_cons, List.append_assoc] at nothing
          exact s.nonempty (List.append_eq_nil_iff.mp nothing).1

namespace KotlinType

open TypeTree

/-! ### The three kinds of names -/

/-- **The kinds of names.**  A name is that of a primitive type, or that of a box or of the
class of strings, or it has no counterpart. -/
theorem counterpart?_cases (element : String) :
    (∃ p : Primitive, element = p.keyword ∧ ∀ isArray, counterpart? element isArray =
        some (builtIn (if isArray then primitiveName p ++ "Array" else primitiveName p))) ∨
      (∃ name, Primitive.ofKeyword? element = none ∧ boxedName? element = some name ∧
        ∀ isArray, counterpart? element isArray =
          some (if isArray then { builtIn "Array" with args := [builtIn name] }
            else builtIn name)) ∨
      (Primitive.ofKeyword? element = none ∧ ∀ isArray, counterpart? element isArray = none) := by
  cases word : Primitive.ofKeyword? element with
  | some p =>
      refine .inl ⟨p, (Primitive.keyword_of_ofKeyword? word).symm, fun isArray => ?_⟩
      rw [counterpart?, word]
  | none =>
      cases boxed : boxedName? element with
      | some name =>
          refine .inr (.inl ⟨name, rfl, rfl, fun isArray => ?_⟩)
          rw [counterpart?, word, boxed]
          rfl
      | none =>
          refine .inr (.inr ⟨rfl, fun isArray => ?_⟩)
          rw [counterpart?, word, boxed]
          rfl

/-- The name of a box or of the class of strings. -/
theorem boxedName?_cases {element name : String} (boxed : boxedName? element = some name) :
    (element = "java.lang.String" ∧ name = "String") ∨
      ∃ p : Primitive, element = p.wrapper ∧ name = primitiveName p := by
  rw [boxedName?] at boxed
  split at boxed
  · next isString =>
      cases boxed
      exact .inl ⟨beq_iff_eq.mp isString, rfl⟩
  · obtain ⟨p, found, rfl⟩ := Option.map_eq_some_iff.mp boxed
    have same : p.wrapper = element := by simpa using List.find?_some found
    exact .inr ⟨p, same.symm, rfl⟩

/-! ### The counterparts of well-formed references -/

/-- A name that is kept, with its array brackets. -/
def keptName (name : DottedName) (own : Nat) : KotlinType :=
  { package := name.qualifier?.getD ""
    name := String.ofList (name.last.text ++ bracketPairs own) }

/-- **The counterpart of a dotted name** with array brackets. -/
def ofJavaBase (name : DottedName) (own : Nat) : KotlinType :=
  (counterpart? (String.ofList name.text) (own != 0)).getD (keptName name own)

theorem ofJavaName?_append (name : DottedName) (own : Nat) :
    ofJavaName? (name.text ++ bracketPairs own) =
      counterpart? (String.ofList name.text) (own != 0) := by
  have noBracket : '[' ∉ name.text := DottedName.not_mem_text (by decide) (by decide)
  cases own with
  | zero =>
      rw [bracketPairs_zero, List.append_nil, ofJavaName?, Text.splitFirst_eq_none.mpr noBracket]
      rfl
  | succ own =>
      have brackets : bracketPairs (own + 1) = '[' :: ']' :: bracketPairs own := rfl
      rw [brackets, ofJavaName?, Text.splitFirst_append_cons noBracket]
      dsimp only
      rw [(isTight_name name).trim_eq]
      rfl

theorem ofName_append (name : DottedName) (own : Nat) :
    ofName (name.text ++ bracketPairs own) = keptName name own := by
  rw [ofName_eq, TypeTree.ofName_append name (not_mem_bracketPairs own (by decide) (by decide))
    (isTight_bracketPairs own)]
  rfl

/-- A kept name, character by character. -/
theorem toList_qualifiedName_keptName (name : DottedName) (own : Nat) :
    (keptName name own).qualifiedName.toList = name.text ++ bracketPairs own := by
  rw [qualifiedName, keptName]
  dsimp only
  rcases name.text_cases with ⟨undotted, same⟩ | ⟨front, dotted, parts⟩
  · rw [undotted, same]
    exact String.toList_ofList
  · have nonempty : String.ofList front ≠ "" := fun empty =>
      name.qualifier?_ne_empty (dotted.trans (congrArg some empty))
    rw [dotted, parts, Option.getD_some, if_neg (mt beq_iff_eq.mp nonempty)]
    simp only [String.toList_append, String.toList_ofList, List.append_assoc, List.cons_append]
    rfl

theorem ofJavaNode_toRef (bound : Option BoundForm) (name : DottedName) (args : List TypeTree)
    (rank : Nat) :
    ofJavaNode (node bound name args rank).toRef.toTypeNode =
      ofJavaBase name (ownRank args rank) := by
  rw [ofJavaNode, toList_qualifiedName_eq, ofJavaName?_append, ofName_append, ofJavaBase]
  cases counterpart? (String.ofList name.text) (ownRank args rank != 0) with
  | none => rfl
  | some known => rfl

/-- **The counterpart of a well-formed reference** is that of its name, with those of its
arguments. -/
theorem ofJava_node (bound : Option BoundForm) (name : DottedName) (args : List TypeTree)
    (rank : Nat) :
    ofJava (node bound name args rank).toRef =
      (ofJavaBase name (ownRank args rank)).withArgs (args.map fun a => ofJava a.toRef) := by
  rw [ofJava_eq, ofJavaNode_toRef, args_toRef_node, List.map_map]
  rfl

/-- A name in array brackets of its own has no arguments, so that a counterpart has either
the arguments of the reference, or the element of an array. -/
theorem args_ofJava_node (bound : Option BoundForm) (name : DottedName) (args : List TypeTree)
    (rank : Nat) :
    (ofJava (node bound name args rank).toRef).args = args.map (fun a => ofJava a.toRef) ∨
      args = [] ∧
        ∃ element, (ofJava (node bound name args rank).toRef).args = [builtIn element] := by
  rw [ofJava_node, ofJavaBase]
  rcases counterpart?_cases (String.ofList name.text) with
    ⟨p, -, known⟩ | ⟨element, -, -, known⟩ | ⟨-, kept⟩
  · rw [known]
    exact .inl rfl
  · rw [known]
    cases args with
    | nil =>
        cases rank with
        | zero => exact .inl rfl
        | succ rank => exact .inr ⟨rfl, element, rfl⟩
    | cons a rest => exact .inl rfl
  · rw [kept]
    exact .inl rfl

end KotlinType

end JavaScaffold
