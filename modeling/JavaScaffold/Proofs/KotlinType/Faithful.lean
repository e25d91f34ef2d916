import JavaScaffold.Proofs.KotlinType.Counterpart

/-!
# What a converted type keeps

Two Java references can have the same counterpart.  Boxed and unboxed types do so by
intent.  Array brackets do so as well where they get lost: behind arguments, and from
the second pair on behind a name that has a counterpart of its own.  Nothing else is
lost, because the Java reference can be written down again from its counterpart.

## Main Definitions

* `TypeTree.boxed` — a reference with boxes in place of primitive types
* `TypeTree.unbracketed` — a reference without the brackets that get lost
* `KotlinType.javaText` — the Java reference that a counterpart stands for
* `TypeTree.IsPlainJava` — references without wildcards and without Kotlin names

## Main Statements

* `KotlinType.javaText_ofJava` — the way back
* `KotlinType.ofJava_boxed_unbracketed` — what gets lost does not show
* `KotlinType.ofJava_eq_iff` — which references have the same counterpart
* `KotlinType.ofJava_arrays` — `int[]` and `int[][]`

## Design Notes

The way back is a left inverse.  It makes the induction one about a single reference,
where a direct proof would have to compare two of them node by node.
-/

namespace JavaScaffold

/-! ### Boxes -/

namespace Primitive

/-- The simple name of the class that boxes a primitive type. -/
def wrapperSegment : Primitive → Segment
  | byte => ⟨"Byte".toList, by decide, List.all_eq_true.mp (by decide)⟩
  | short => ⟨"Short".toList, by decide, List.all_eq_true.mp (by decide)⟩
  | int => ⟨"Integer".toList, by decide, List.all_eq_true.mp (by decide)⟩
  | long => ⟨"Long".toList, by decide, List.all_eq_true.mp (by decide)⟩
  | char => ⟨"Character".toList, by decide, List.all_eq_true.mp (by decide)⟩
  | float => ⟨"Float".toList, by decide, List.all_eq_true.mp (by decide)⟩
  | double => ⟨"Double".toList, by decide, List.all_eq_true.mp (by decide)⟩
  | boolean => ⟨"Boolean".toList, by decide, List.all_eq_true.mp (by decide)⟩

/-- The dotted name of the class that boxes a primitive type. -/
def wrapperName (p : Primitive) : DottedName where
  front := [.java, ⟨"lang".toList, by decide, List.all_eq_true.mp (by decide)⟩]
  last := p.wrapperSegment

theorem text_wrapperName (p : Primitive) : p.wrapperName.text = p.wrapper.toList := by
  cases p <;> decide

end Primitive

namespace TypeTree

/-- The name of a box in place of that of a primitive type. -/
def boxedName (name : DottedName) : DottedName :=
  match Primitive.ofKeyword? (String.ofList name.text) with
  | some p => p.wrapperName
  | none => name

/-- Whether a name has a counterpart of its own. -/
def isKnown (name : DottedName) : Bool :=
  (KotlinType.counterpart? (String.ofList name.text) false).isSome

mutual

/-- **A reference with boxes**: each node that is a primitive type, and no array, is
replaced by the class that boxes it. -/
def boxed : TypeTree → TypeTree
  | anything => anything
  | node bound name args rank =>
    node bound (if rank = 0 then boxedName name else name) (boxedAll args) rank

/-- The arguments of a reference, with boxes. -/
def boxedAll : List TypeTree → List TypeTree
  | [] => []
  | s :: ss => s.boxed :: boxedAll ss

end

/-- The array brackets that do not get lost: none behind arguments, and no more than one
pair behind a name with a counterpart of its own. -/
def keptRank (name : DottedName) (args : List TypeTree) (rank : Nat) : Nat :=
  if isKnown name then min (ownRank args rank) 1 else ownRank args rank

mutual

/-- **A reference without the brackets that get lost.** -/
def unbracketed : TypeTree → TypeTree
  | anything => anything
  | node bound name args rank => node bound name (unbracketedAll args) (keptRank name args rank)

/-- The arguments of a reference, without the brackets that get lost. -/
def unbracketedAll : List TypeTree → List TypeTree
  | [] => []
  | s :: ss => s.unbracketed :: unbracketedAll ss

end

theorem boxedAll_eq_map (ss : List TypeTree) : boxedAll ss = ss.map boxed := by
  induction ss with
  | nil => rfl
  | cons s ss ih => rw [boxedAll, ih, List.map_cons]

theorem unbracketedAll_eq_map (ss : List TypeTree) : unbracketedAll ss = ss.map unbracketed := by
  induction ss with
  | nil => rfl
  | cons s ss ih => rw [unbracketedAll, ih, List.map_cons]

/-- **A reference without wildcards and without Kotlin names**, at every node. -/
def IsPlainJava (s : TypeTree) : Prop :=
  ∀ t ∈ s.toRef.nodes, t.wildcard = none ∧ t.package ≠ "kotlin"

instance (s : TypeTree) : Decidable (IsPlainJava s) :=
  inferInstanceAs (Decidable (∀ t ∈ s.toRef.nodes, t.wildcard = none ∧ t.package ≠ "kotlin"))

/-- A node without its wildcard, its name, and its arguments. -/
theorem IsPlainJava.of_node {bound : Option BoundForm} {name : DottedName}
    {args : List TypeTree} {rank : Nat} (plain : IsPlainJava (node bound name args rank)) :
    bound = none ∧ name.qualifier?.getD "" ≠ "kotlin" ∧ ∀ a ∈ args, IsPlainJava a := by
  obtain ⟨inside, unmarked, package⟩ := (forall_mem_nodes_node bound name args rank).mp plain
  refine ⟨?_, package, inside⟩
  rw [toRef] at unmarked
  cases bound with
  | none => rfl
  | some form => cases unmarked

/-- A reference without what gets lost, as a text. -/
theorem text_boxed_unbracketed (name : DottedName) (args : List TypeTree) (rank : Nat) :
    (node none name args rank).unbracketed.boxed.text =
      (if keptRank name args rank = 0 then boxedName name else name).text ++
        angled (args.map fun a => a.unbracketed.boxed.text) ++
          bracketPairs (keptRank name args rank) := by
  have unbound : boundText none = [] := rfl
  rw [unbracketed, boxed, text, texts_eq_map, boxedAll_eq_map, unbracketedAll_eq_map, List.map_map,
    List.map_map, unbound, List.nil_append]
  rfl

/-- Brackets that are kept are brackets of the name. -/
theorem ownRank_keptRank (name : DottedName) (args : List TypeTree) (rank : Nat) :
    ownRank args (keptRank name args rank) = keptRank name args rank := by
  cases args with
  | nil => rfl
  | cons a rest =>
      have behind : ∀ r, ownRank (a :: rest) r = 0 := fun _ => rfl
      rw [behind, keptRank, behind, Nat.zero_min, ite_self]

end TypeTree

namespace KotlinType

open TypeTree

/-! ### What gets lost does not show -/

/-- The name of a box has the same counterpart. -/
theorem ofJavaBase_boxedName (name : DottedName) :
    ofJavaBase (boxedName name) 0 = ofJavaBase name 0 := by
  rw [boxedName]
  split
  · next p word =>
      have boxed : counterpart? (String.ofList p.wrapperName.text) false =
          some (builtIn (primitiveName p)) := by
        rw [Primitive.text_wrapperName, String.ofList_toList]
        cases p <;> rfl
      have unboxed : counterpart? (String.ofList name.text) false =
          some (builtIn (primitiveName p)) := by
        rw [counterpart?, word]
        rfl
      have element : (0 != 0) = false := rfl
      rw [ofJavaBase, ofJavaBase, element, boxed, unboxed, Option.getD_some, Option.getD_some]
  · rfl

/-- What brackets are lost makes no difference. -/
theorem ofJavaBase_keptRank (name : DottedName) (args : List TypeTree) (rank : Nat) :
    ofJavaBase name (keptRank name args rank) = ofJavaBase name (ownRank args rank) := by
  have same : ∀ own, (min own 1 != 0) = (own != 0) := by
    intro own
    cases own with
    | zero => rfl
    | succ own =>
        rw [Nat.min_eq_right (Nat.le_add_left 1 own)]
        rfl
  rw [keptRank]
  split
  · next known =>
      obtain ⟨k, plain⟩ := Option.isSome_iff_exists.mp known
      rw [ofJavaBase, ofJavaBase, same]
      rcases counterpart?_cases (String.ofList name.text) with
        ⟨p, -, found⟩ | ⟨element, -, -, found⟩ | ⟨-, kept⟩
      · rw [found]
        rfl
      · rw [found]
        rfl
      · rw [kept] at plain
        cases plain
  · rfl

/-- **What gets lost does not show** in the counterpart. -/
theorem ofJava_boxed_unbracketed (s : TypeTree) :
    ofJava s.unbracketed.boxed.toRef = ofJava s.toRef := by
  induction s using inductionOn with
  | anything => rfl
  | node bound name args rank ih =>
      -- Of the arguments, it counts only whether there are any.
      have own : ∀ r, ownRank (args.map fun a => a.unbracketed.boxed) r = ownRank args r := by
        intro r
        rw [ownRank, ownRank, List.isEmpty_map]
      have below : (args.map fun a => a.unbracketed.boxed).map (fun a => ofJava a.toRef) =
          args.map fun a => ofJava a.toRef := by
        rw [List.map_map]
        exact List.map_congr_left ih
      have base : ∀ r, ofJavaBase (if r = 0 then boxedName name else name) r =
          ofJavaBase name r := by
        intro r
        split
        · next none => rw [none, ofJavaBase_boxedName]
        · rfl
      have arguments : boxedAll (unbracketedAll args) = args.map fun a => a.unbracketed.boxed := by
        rw [boxedAll_eq_map, unbracketedAll_eq_map, List.map_map]
        rfl
      rw [unbracketed, boxed, arguments, ofJava_node, own, ownRank_keptRank, base,
        ofJavaBase_keptRank, below, ofJava_node]

/-! ### The way back -/

/-- The names of the package `kotlin` that counterparts have, but for arrays of boxes, with the
Java references they stand for. -/
def origins : List (String × String) :=
  ("String", "java.lang.String") ::
    Primitive.all.flatMap fun p =>
      [(primitiveName p, p.wrapper), (primitiveName p ++ "Array", p.keyword ++ "[]")]

/-- The Java reference that a name of the package `kotlin` stands for. -/
def origin (name : String) : String :=
  ((origins.find? fun known => known.1 == name).map Prod.snd).getD name

mutual

/-- **The Java reference** that a counterpart stands for. -/
def javaText : KotlinType → List Char
  | ⟨package, name, args⟩ =>
    if package == "kotlin" then
      if name == "Array" then (javaTexts args).flatten ++ ['[', ']']
      else (origin name).toList ++ angled (javaTexts args)
    else (qualifiedName ⟨package, name, args⟩).toList ++ angled (javaTexts args)

/-- The Java references that some counterparts stand for. -/
def javaTexts : List KotlinType → List (List Char)
  | [] => []
  | k :: ks => k.javaText :: javaTexts ks

end

theorem javaTexts_eq_map (ks : List KotlinType) : javaTexts ks = ks.map javaText := by
  induction ks with
  | nil => rfl
  | cons k ks ih => rw [javaTexts, ih, List.map_cons]

theorem origin_primitiveName (p : Primitive) :
    origin (primitiveName p) = p.wrapper ∧
      origin (primitiveName p ++ "Array") = p.keyword ++ "[]" := by
  cases p <;> exact ⟨rfl, rfl⟩

theorem primitiveName_ne_array (p : Primitive) :
    primitiveName p ≠ "Array" ∧ primitiveName p ++ "Array" ≠ "Array" := by
  cases p <;> exact ⟨by decide, by decide⟩

theorem origin_boxedName {element name : String} (boxed : boxedName? element = some name) :
    origin name = element ∧ name ≠ "Array" := by
  rcases boxedName?_cases boxed with ⟨rfl, rfl⟩ | ⟨p, rfl, rfl⟩
  · exact ⟨rfl, by decide⟩
  · exact ⟨(origin_primitiveName p).1, (primitiveName_ne_array p).1⟩

/-- A name of the package `kotlin` leads back to its Java reference. -/
theorem javaText_builtIn {name : String} (element : name ≠ "Array") (args : List KotlinType) :
    javaText { builtIn name with args := args } =
      (origin name).toList ++ angled (args.map javaText) := by
  have package : ("kotlin" == "kotlin") = true := rfl
  rw [builtIn]
  dsimp only
  rw [javaText, if_pos package, if_neg (mt beq_iff_eq.mp element), javaTexts_eq_map]

/-- An array leads back to an array. -/
theorem javaText_array {name : String} (element : name ≠ "Array") :
    javaText { builtIn "Array" with args := [builtIn name] } =
      (origin name).toList ++ bracketPairs 1 := by
  have inside := javaText_builtIn element []
  rw [List.map_nil, angled_nil, List.append_nil] at inside
  have package : ("kotlin" == "kotlin") = true := rfl
  have array : ("Array" == "Array") = true := rfl
  rw [builtIn]
  dsimp only
  rw [javaText, if_pos package, if_pos array, javaTexts_eq_map, List.map_singleton,
    List.flatten_singleton]
  exact congrArg (· ++ ['[', ']']) inside

/-- A kept name leads back to itself. -/
theorem javaText_keptName {name : DottedName} (foreign : name.qualifier?.getD "" ≠ "kotlin")
    (own : Nat) (args : List KotlinType) :
    javaText { keptName name own with args := args } =
      name.text ++ bracketPairs own ++ angled (args.map javaText) := by
  have parts := toList_qualifiedName_keptName name own
  rw [keptName] at parts ⊢
  rw [javaText, if_neg (mt beq_iff_eq.mp foreign), javaTexts_eq_map]
  exact congrArg (· ++ _) parts

/-- The counterpart of a dotted name leads back to that name, but for what gets lost. -/
theorem javaText_ofJavaBase {name : DottedName} (foreign : name.qualifier?.getD "" ≠ "kotlin")
    (own : Nat) :
    javaText (ofJavaBase name own) =
      (if (if isKnown name then min own 1 else own) = 0 then boxedName name else name).text ++
        bracketPairs (if isKnown name then min own 1 else own) := by
  have nameText : (String.ofList name.text).toList = name.text := String.toList_ofList
  have unboxed : Primitive.ofKeyword? (String.ofList name.text) = none → boxedName name = name := by
    intro other
    rw [boxedName, other]
  rw [ofJavaBase, isKnown]
  rcases counterpart?_cases (String.ofList name.text) with
    ⟨p, word, known⟩ | ⟨element, other, boxed, known⟩ | ⟨other, kept⟩
  · have box : (boxedName name).text = p.wrapper.toList := by
      rw [boxedName, word, Primitive.ofKeyword?_keyword]
      exact Primitive.text_wrapperName p
    rw [known, known, Option.isSome_some, if_pos rfl, Option.getD_some]
    cases own with
    | zero =>
        have whole := javaText_builtIn (primitiveName_ne_array p).1 []
        rw [(origin_primitiveName p).1, ← box, List.map_nil, angled_nil] at whole
        rw [Nat.zero_min, if_pos rfl, bracketPairs_zero]
        exact whole
    | succ own =>
        have whole := javaText_builtIn (primitiveName_ne_array p).2 []
        rw [(origin_primitiveName p).2, String.toList_append, ← word, nameText, List.map_nil,
          angled_nil, List.append_nil] at whole
        rw [Nat.min_eq_right (Nat.le_add_left 1 own), if_neg Nat.one_ne_zero]
        exact whole
  · obtain ⟨leads, element⟩ := origin_boxedName boxed
    rw [known, known, Option.isSome_some, if_pos rfl, Option.getD_some, unboxed other, ite_self]
    cases own with
    | zero =>
        have whole := javaText_builtIn element []
        rw [leads, nameText, List.map_nil, angled_nil] at whole
        exact whole
    | succ own =>
        have whole := javaText_array element
        rw [leads, nameText] at whole
        rw [Nat.min_eq_right (Nat.le_add_left 1 own)]
        exact whole
  · have unknown : ¬ (none : Option KotlinType).isSome = true := Bool.false_ne_true
    have whole := javaText_keptName foreign own []
    rw [List.map_nil, angled_nil, List.append_nil] at whole
    rw [kept, kept, if_neg unknown, Option.getD_none, unboxed other, ite_self]
    exact whole

/-- Without array brackets, a counterpart is no array. -/
theorem ofJavaBase_zero {name : DottedName} (foreign : name.qualifier?.getD "" ≠ "kotlin") :
    (ofJavaBase name 0).args = [] ∧
      ((ofJavaBase name 0).package = "kotlin" → (ofJavaBase name 0).name ≠ "Array") := by
  rw [ofJavaBase]
  rcases counterpart?_cases (String.ofList name.text) with
    ⟨p, -, known⟩ | ⟨element, -, boxed, known⟩ | ⟨-, kept⟩
  · rw [known]
    exact ⟨rfl, fun _ => (primitiveName_ne_array p).1⟩
  · rw [known]
    exact ⟨rfl, fun _ => (origin_boxedName boxed).2⟩
  · rw [kept]
    exact ⟨rfl, fun inside => absurd inside foreign⟩

theorem withArgs_nil (k : KotlinType) : k.withArgs [] = k := by
  cases k
  rw [withArgs, List.append_nil]

/-- Arguments lead back to arguments. -/
theorem javaText_withArgs {base : KotlinType} (alone : base.args = [])
    (element : base.package = "kotlin" → base.name ≠ "Array") (args : List KotlinType) :
    javaText (base.withArgs args) = javaText base ++ angled (args.map javaText) := by
  obtain ⟨package, name, own⟩ := base
  obtain rfl : own = [] := alone
  have noArray : package = "kotlin" → ¬ (name == "Array") = true := fun inside =>
    mt beq_iff_eq.mp (element inside)
  rw [withArgs, List.nil_append, javaText, javaText, javaTexts_eq_map, javaTexts, angled_nil]
  dsimp only
  split
  · next inside =>
      rw [if_neg (noArray (beq_iff_eq.mp inside)), if_neg (noArray (beq_iff_eq.mp inside)),
        List.append_nil]
  · rw [List.append_nil]
    rfl

/-- **The way back** leads to the reference, but for what gets lost. -/
theorem javaText_ofJava {s : TypeTree} (plain : IsPlainJava s) :
    (ofJava s.toRef).javaText = s.unbracketed.boxed.text := by
  induction s using inductionOn with
  | anything =>
      have unmarked := (plain anything.toRef List.mem_cons_self).1
      cases unmarked
  | node bound name args rank ih =>
      obtain ⟨rfl, foreign, plainBelow⟩ := plain.of_node
      have below : (args.map fun a => ofJava a.toRef).map javaText =
          args.map fun a => a.unbracketed.boxed.text := by
        rw [List.map_map]
        exact List.map_congr_left fun a member => ih a member (plainBelow a member)
      rw [ofJava_node, text_boxed_unbracketed, ← below, keptRank]
      cases args with
      | nil =>
          have own : ownRank [] rank = rank := rfl
          rw [List.map_nil, List.map_nil, angled_nil, List.append_nil, own, withArgs_nil]
          exact javaText_ofJavaBase foreign rank
      | cons a rest =>
          have base := javaText_ofJavaBase foreign 0
          have behind : ownRank (a :: rest) rank = 0 := rfl
          obtain ⟨alone, element⟩ := ofJavaBase_zero foreign
          rw [Nat.zero_min, ite_self, if_pos rfl, bracketPairs_zero, List.append_nil] at base
          rw [behind, Nat.zero_min, ite_self, if_pos rfl, bracketPairs_zero, List.append_nil,
            javaText_withArgs alone element, base]

/-! ### What distinguishes counterparts -/

/-- **Which references have the same counterpart.**  The counterparts of two references without
wildcards and without Kotlin names are the same exactly when the references are the same up to
boxes and to the brackets that get lost.  Where no brackets get lost, that is: up to boxes. -/
theorem ofJava_eq_iff (a b : TypeTree) (plainA : IsPlainJava a) (plainB : IsPlainJava b) :
    (ofJava a.toRef = ofJava b.toRef ↔
        a.unbracketed.boxed.toRef.fullName = b.unbracketed.boxed.toRef.fullName) ∧
      (a.unbracketed = a → b.unbracketed = b →
        (ofJava a.toRef = ofJava b.toRef ↔ a.boxed.toRef.fullName = b.boxed.toRef.fullName)) := by
  have same : ofJava a.toRef = ofJava b.toRef ↔
      a.unbracketed.boxed.toRef.fullName = b.unbracketed.boxed.toRef.fullName := by
    rw [← String.toList_inj, toList_fullName, toList_fullName]
    constructor
    · intro counterparts
      rw [← javaText_ofJava plainA, counterparts, javaText_ofJava plainB]
    · intro texts
      have references : a.unbracketed.boxed.toRef = b.unbracketed.boxed.toRef := by
        have read := TypeTree.read_text a.unbracketed.boxed
        rw [texts, TypeTree.read_text] at read
        exact (Except.ok.inj read).symm
      rw [← ofJava_boxed_unbracketed a, references, ofJava_boxed_unbracketed]
  refine ⟨same, fun keepsA keepsB => ?_⟩
  rw [same, keepsA, keepsB]

/-- The primitive type `int`, in array brackets. -/
def ints (rank : Nat) : TypeTree :=
  .node none
    { front := [], last := ⟨"int".toList, by decide, List.all_eq_true.mp (by decide)⟩ } [] rank

/-- Lists of integers, in a box or not. -/
theorem ofJava_eq_iff_boxes :
    (IsPlainJava (listOf (ints 0) 0) ∧ (listOf (ints 0) 0).unbracketed = listOf (ints 0) 0 ∧
        (listOf (ints 0) 0).toRef.fullName = "java.util.List<int>") ∧
      (IsPlainJava (listOf (ints 0).boxed 0) ∧
        (listOf (ints 0).boxed 0).unbracketed = listOf (ints 0).boxed 0 ∧
        (listOf (ints 0).boxed 0).toRef.fullName = "java.util.List<java.lang.Integer>") ∧
      ofJava (listOf (ints 0) 0).toRef = ofJava (listOf (ints 0).boxed 0).toRef := by
  have plain : IsPlainJava (listOf (ints 0) 0) := by decide +kernel
  have plainBoxed : IsPlainJava (listOf (ints 0).boxed 0) := by decide +kernel
  have same := (ofJava_eq_iff _ _ plain plainBoxed).2 rfl rfl
  exact ⟨⟨plain, rfl, by decide +kernel⟩, ⟨plainBoxed, rfl, by decide +kernel⟩, same.mpr rfl⟩

/-- **Array brackets can get lost**: from the second pair on behind a name with a counterpart
of its own, and behind arguments. -/
theorem ofJava_arrays :
    (IsPlainJava (ints 1) ∧ IsPlainJava (ints 2) ∧
        ofJava (ints 1).toRef = ofJava (ints 2).toRef ∧
        (ints 1).boxed.toRef.fullName = "int[]" ∧ (ints 2).boxed.toRef.fullName = "int[][]") ∧
      IsPlainJava (listOf (ints 1) 0) ∧ IsPlainJava (listOf (ints 1) 1) ∧
        ofJava (listOf (ints 1) 0).toRef = ofJava (listOf (ints 1) 1).toRef ∧
        (listOf (ints 1) 0).boxed.toRef.fullName = "java.util.List<int[]>" ∧
        (listOf (ints 1) 1).boxed.toRef.fullName = "java.util.List<int[]>[]" :=
  ⟨⟨by decide +kernel, by decide +kernel, rfl, by decide +kernel, by decide +kernel⟩,
    by decide +kernel, by decide +kernel, rfl, by decide +kernel, by decide +kernel⟩

end KotlinType

end JavaScaffold
