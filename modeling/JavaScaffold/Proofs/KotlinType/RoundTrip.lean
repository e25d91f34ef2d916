import JavaScaffold.Proofs.KotlinType.Counterpart

/-!
# Reading back a converted type

The counterpart of a Java reference is printed as a text, and reading that text gives
the counterpart back, with one exception.  The unbounded wildcard has a counterpart
without a name, which is printed as nothing; at the end of an argument list, nothing
is no argument.

## Main Definitions

* `KotlinType.IsLegible` — a type whose names can be read back
* `KotlinType.isNameless` — a type that is printed as nothing
* `KotlinType.reread` — what is left of a type when it is printed and read

## Main Statements

* `KotlinType.read_text` — reading the text of a legible type
* `KotlinType.isLegible_ofJava` — counterparts are legible
* `KotlinType.parse_text_ofJava` — the round trip, and when nothing is lost
* `KotlinType.parse_text_wildcard` — the counterpart of `java.util.List<?>`
-/

namespace JavaScaffold.KotlinType

open TypeTree

variable {k : KotlinType} {ks : List KotlinType} {segments : List (List Char)}

/-! ### Reading arguments -/

theorem read_blanks_append {front : List Char} (blank : Text.isBlankText front = true)
    (text : List Char) : read (front ++ text) = read text := by
  have cut : Bracketing.of (front ++ text) = (Bracketing.of text).around front [] := by
    have nil : Text.isBlankText [] = true := rfl
    have padded := Bracketing.of_pad blank text nil
    rwa [List.append_nil] at padded
  have same : ∀ name, ofName (front ++ name) = ofName name := fun name =>
    ofName_congr (Text.trim_blanks_append blank name)
  rw [read_eq, read_eq, cut, Text.trim_blanks_append blank]
  cases Bracketing.of text with
  | plain name =>
      dsimp only [Bracketing.around]
      rw [List.append_nil, same]
  | unclosed => rfl
  | generic name arguments trailing =>
      dsimp only [Bracketing.around]
      rw [same]

theorem readAll_of_forall₂ (each : List.Forall₂ (fun s k => read s = .ok k) segments ks) :
    readAll segments = .ok ks := by
  induction each with
  | nil => rw [readAll]; rfl
  | cons here _ ih =>
      rw [readAll, here, ih]
      rfl

/-! ### Legible types -/

/-- **A legible type**: no delimiter is in a name, and each name is that of its node. -/
inductive IsLegible : KotlinType → Prop
  | node {k : KotlinType} (plain : ∀ c ∈ k.qualifiedName.toList, c ≠ ',' ∧ c ≠ '<' ∧ c ≠ '>')
      (same : ofName k.qualifiedName.toList = { k with args := [] })
      (args : ∀ a ∈ k.args, IsLegible a) : IsLegible k

/-- Whether a type has neither a name nor arguments. -/
def isNameless (k : KotlinType) : Bool :=
  k.package == "" && k.name == "" && k.args.isEmpty

mutual

/-- **What is left of a type** when it is printed and read: each node loses its last
argument, if that has no name. -/
def reread : KotlinType → KotlinType
  | ⟨package, name, args⟩ => ⟨package, name, rereadArgs args⟩

/-- What is left of an argument list. -/
def rereadArgs : List KotlinType → List KotlinType
  | [] => []
  | [k] => if k.isNameless then [] else [k.reread]
  | k :: next :: rest => k.reread :: rereadArgs (next :: rest)

end

theorem reread_eq (k : KotlinType) : k.reread = { k with args := rereadArgs k.args } := by
  cases k
  rw [reread]

theorem isNameless_iff : k.isNameless = true ↔ k = { package := "", name := "" } := by
  obtain ⟨package, name, args⟩ := k
  simp [isNameless, and_assoc]

theorem toList_text (k : KotlinType) :
    k.text.toList = k.qualifiedName.toList ++ angled (k.args.map fun a => a.text.toList) := by
  have noBrackets : ∀ base args, assemble base args = TypeRef.assemble base args "" := by
    intro base args
    rw [assemble, TypeRef.assemble, String.append_empty, String.append_empty]
  rw [text_eq, noBrackets, toList_assemble, List.map_map]
  exact List.append_nil _

/-- The text of a legible type is blank only if that type has no name. -/
theorem IsLegible.isBlankText_text (legible : IsLegible k) :
    Text.isBlankText k.text.toList = k.isNameless := by
  cases legible with
  | node plain same args =>
      rw [Bool.eq_iff_iff, isNameless_iff]
      constructor
      · intro blank
        rw [toList_text, Text.isBlankText, List.all_append, Bool.and_eq_true] at blank
        obtain ⟨blankName, blankArgs⟩ := blank
        have alone : k.args = [] := by
          by_contra some
          have nonempty : (k.args.map fun a => a.text.toList) ≠ [] := mt List.map_eq_nil_iff.mp some
          rw [angled_of_ne_nil nonempty] at blankArgs
          cases blankArgs
        have unnamed : ofName k.qualifiedName.toList = ofName [] :=
          ofName_congr (Text.trim_eq_nil_iff.mpr blankName)
        have empty := same.symm.trans unnamed
        rw [← alone] at empty
        obtain ⟨package, name, list⟩ := k
        exact empty
      · rintro rfl
        rfl

theorem IsLegible.isClosed_text (legible : IsLegible k) : IsClosed k.text.toList := by
  induction legible with
  | @node k plain same args ih =>
      rw [toList_text]
      refine (isClosed_of_forall plain).append ?_
      rw [angled]
      split
      · exact isClosed_nil
      · refine IsClosed.angles (isClosed_spaced fun t member => ?_)
        obtain ⟨a, found, rfl⟩ := List.mem_map.mp member
        exact ih a found

/-- The arguments are read one by one, and a nameless last one is lost. -/
theorem forall₂_rereadArgs (legible : ∀ a ∈ ks, IsLegible a)
    (each : ∀ a ∈ ks, read a.text.toList = .ok a.reread)
    (written : List.Forall₂ (fun s (a : KotlinType) => ∃ front,
      Text.isBlankText front = true ∧ s = front ++ a.text.toList) segments ks) :
    List.Forall₂ (fun s k => read s = .ok k) (dropBlankLast segments) (rereadArgs ks) := by
  have readBack : ∀ front, Text.isBlankText front = true → ∀ a ∈ ks,
      read (front ++ a.text.toList) = .ok a.reread := fun front blank a member =>
    (read_blanks_append blank a.text.toList).trans (each a member)
  induction written with
  | nil =>
      rw [rereadArgs]
      exact .nil
  | @cons s a segments ks here below ih =>
      obtain ⟨front, blank, rfl⟩ := here
      cases below with
      | nil =>
          have shown : Text.isBlankText (front ++ a.text.toList) = a.isNameless := by
            rw [Text.isBlankText, List.all_append, ← Text.isBlankText, blank, Bool.true_and,
              ← Text.isBlankText, (legible a List.mem_cons_self).isBlankText_text]
          rw [dropBlankLast_singleton, rereadArgs, shown]
          split
          · exact .nil
          · exact .cons (readBack front blank a List.mem_cons_self) .nil
      | @cons s' a' segments' ks' here' below' =>
          rw [dropBlankLast_cons_cons, rereadArgs]
          refine .cons (readBack front blank a List.mem_cons_self) (ih ?_ ?_ ?_)
          · exact fun b member => legible b (List.mem_cons_of_mem _ member)
          · exact fun b member => each b (List.mem_cons_of_mem _ member)
          · exact fun front blank b member => readBack front blank b (List.mem_cons_of_mem _ member)

/-- **Reading the text of a legible type** gives what is left of it. -/
theorem read_text (legible : IsLegible k) : read k.text.toList = .ok k.reread := by
  induction legible with
  | @node k plain same args ih =>
      have noOpening : '<' ∉ k.qualifiedName.toList := fun member => (plain '<' member).2.1 rfl
      rw [toList_text, reread_eq, read_eq]
      by_cases some : k.args = []
      · rw [some, List.map_nil, angled_nil, List.append_nil, Bracketing.of_of_not_mem noOpening]
        dsimp only
        rw [same, rereadArgs]
      · have nonempty : (k.args.map fun a => a.text.toList) ≠ [] := mt List.map_eq_nil_iff.mp some
        have closed : ∀ t ∈ k.args.map (fun a => a.text.toList), IsClosed t := by
          intro t member
          obtain ⟨a, found, rfl⟩ := List.mem_map.mp member
          exact (args a found).isClosed_text
        have written : List.Forall₂ (fun s (a : KotlinType) => ∃ front,
            Text.isBlankText front = true ∧ s = front ++ a.text.toList)
            (spaced (k.args.map fun a => a.text.toList)) k.args := by
          cases k.args with
          | nil => exact .nil
          | cons a rest =>
              refine .cons ⟨[], rfl, rfl⟩ ?_
              rw [List.map_map, List.forall₂_map_left_iff, List.forall₂_same]
              exact fun b _ => ⟨[' '], by decide, rfl⟩
        have cut := Bracketing.of_append noOpening
          ([','].intercalate (spaced (k.args.map fun a => a.text.toList)))
          (List.not_mem_nil (a := '>'))
        rw [angled_of_ne_nil nonempty, cut]
        dsimp only
        rw [splitArguments_intercalate (spaced_ne_nil nonempty) (isClosed_spaced closed)]
        dsimp only
        rw [readAll_of_forall₂ (forall₂_rereadArgs args ih written), same]
        rfl

/-! ### Counterparts are legible -/

/-- A name of the package `kotlin` can be read back. -/
theorem isLegible_builtIn {name : String} (clean : ∀ c ∈ name.toList, isNameChar c = true)
    {args : List KotlinType} (legible : ∀ a ∈ args, IsLegible a) :
    IsLegible { builtIn name with args := args } := by
  have parts : (builtIn name).qualifiedName.toList = "kotlin".toList ++ '.' :: name.toList := by
    have packaged : ¬ ("kotlin" == "") = true := by decide
    rw [qualifiedName, builtIn]
    dsimp only
    rw [if_neg packaged, String.toList_append, String.toList_append, List.append_assoc]
    rfl
  have package : ∀ c ∈ "kotlin".toList, isNameChar c = true := List.all_eq_true.mp (by decide)
  have chars : ∀ c ∈ (builtIn name).qualifiedName.toList, isNameChar c = true ∨ c = '.' := by
    intro c member
    rw [parts, List.mem_append, List.mem_cons] at member
    rcases member with here | dot | here
    · exact .inl (package c here)
    · exact .inr dot
    · exact .inl (clean c here)
  have tight : Text.IsTight (builtIn name).qualifiedName.toList := by
    refine Text.isTight_of_forall fun c member => ?_
    rcases chars c member with good | rfl
    · exact (isNameChar_iff.mp good).1
    · decide
  have noDot : '.' ∉ name.toList := fun member => (isNameChar_iff.mp (clean '.' member)).2.1 rfl
  refine .node (fun c member => ?_) ?_ legible
  · rcases chars c member with good | rfl
    · obtain ⟨-, -, noOpening, noClosing, noComma, -⟩ := isNameChar_iff.mp good
      exact ⟨noComma, noOpening, noClosing⟩
    · decide
  · change ofName (builtIn name).qualifiedName.toList = builtIn name
    rw [ofName, tight.trim_eq, parts, Text.splitLast_append_cons _ noDot]
    dsimp only
    rw [String.ofList_toList, String.ofList_toList, builtIn]

/-- A name that is kept can be read back. -/
theorem isLegible_keptName (name : DottedName) (own : Nat) {args : List KotlinType}
    (legible : ∀ a ∈ args, IsLegible a) : IsLegible { keptName name own with args := args } := by
  have parts := toList_qualifiedName_keptName name own
  refine .node (fun c member => ?_) ?_ legible
  · change c ∈ (keptName name own).qualifiedName.toList at member
    rw [parts, List.mem_append] at member
    rcases member with inName | inBrackets
    · rcases name.mem_text inName with clean | rfl
      · obtain ⟨-, -, noOpening, noClosing, noComma, -⟩ := isNameChar_iff.mp clean
        exact ⟨noComma, noOpening, noClosing⟩
      · decide
    · rcases mem_bracketPairs inBrackets with rfl | rfl
      · decide
      · decide
  · change ofName (keptName name own).qualifiedName.toList = keptName name own
    rw [parts, ofName_append]

theorem clean_primitiveName (p : Primitive) :
    (∀ c ∈ (primitiveName p).toList, isNameChar c = true) ∧
      ∀ c ∈ (primitiveName p ++ "Array").toList, isNameChar c = true := by
  cases p <;> exact ⟨List.all_eq_true.mp (by decide), List.all_eq_true.mp (by decide)⟩

theorem clean_boxedName {element name : String} (boxed : boxedName? element = some name) :
    ∀ c ∈ name.toList, isNameChar c = true := by
  rcases boxedName?_cases boxed with ⟨-, rfl⟩ | ⟨p, -, rfl⟩
  · exact List.all_eq_true.mp (by decide)
  · exact (clean_primitiveName p).1

/-- **Counterparts are legible.** -/
theorem isLegible_ofJava (s : TypeTree) : IsLegible (ofJava s.toRef) := by
  induction s using inductionOn with
  | anything => exact .node (List.forall_mem_nil _) rfl (List.forall_mem_nil _)
  | node bound name args rank ih =>
      have below : ∀ a ∈ args.map (fun a => ofJava a.toRef), IsLegible a := by
        intro k member
        obtain ⟨a, found, rfl⟩ := List.mem_map.mp member
        exact ih a found
      rw [ofJava_node, ofJavaBase]
      rcases counterpart?_cases (String.ofList name.text) with
        ⟨p, -, known⟩ | ⟨element, -, boxed, known⟩ | ⟨-, kept⟩
      · rw [known, Option.getD_some, withArgs]
        split
        · exact isLegible_builtIn (clean_primitiveName p).2 below
        · exact isLegible_builtIn (clean_primitiveName p).1 below
      · have clean := clean_boxedName boxed
        rw [known, Option.getD_some, withArgs]
        split
        · have array : ∀ c ∈ "Array".toList, isNameChar c = true := List.all_eq_true.mp (by decide)
          refine isLegible_builtIn array fun a member => ?_
          rcases List.mem_cons.mp member with rfl | later
          · exact isLegible_builtIn clean (List.forall_mem_nil _)
          · exact below a later
        · exact isLegible_builtIn clean below
      · rw [kept, Option.getD_none, withArgs]
        exact isLegible_keptName name _ below

/-! ### The round trip -/

/-- The counterpart of a reference has no name exactly when that is the unbounded
wildcard. -/
theorem isNameless_ofJava (s : TypeTree) :
    (ofJava s.toRef).isNameless = true ↔ s.toRef.wildcard = some .unbounded := by
  cases s with
  | anything => exact ⟨fun _ => rfl, fun _ => rfl⟩
  | node bound name args rank =>
      have bounded : (node bound name args rank).toRef.wildcard ≠ some .unbounded := by
        have marked : (node bound name args rank).toRef.wildcard =
            bound.map BoundForm.wildcard := by rw [toRef]
        rw [marked]
        cases bound with
        | none => decide
        | some form => cases form <;> decide
      refine ⟨fun nameless => ?_, fun unbounded => absurd unbounded bounded⟩
      have empty := isNameless_iff.mp nameless
      rw [ofJava_node, ofJavaBase] at empty
      rcases counterpart?_cases (String.ofList name.text) with
        ⟨p, -, known⟩ | ⟨element, -, -, known⟩ | ⟨-, kept⟩
      · rw [known] at empty
        exact absurd (congrArg KotlinType.package empty) (by decide : "kotlin" ≠ "")
      · rw [known] at empty
        have package := congrArg KotlinType.package empty
        rw [Option.getD_some, withArgs] at package
        split at package
        · exact absurd package (by decide : "kotlin" ≠ "")
        · exact absurd package (by decide : "kotlin" ≠ "")
      · rw [kept] at empty
        have last := congrArg (fun k => k.name.toList) empty
        rw [Option.getD_none, withArgs, keptName] at last
        dsimp only at last
        rw [String.toList_ofList] at last
        exact absurd (List.append_eq_nil_iff.mp last).1 name.last.nonempty

/-- Nothing is lost from a list when nothing is lost from its members and the last one has
a name. -/
theorem rereadArgs_eq_self_iff :
    rereadArgs ks = ks ↔
      (∀ last ∈ ks.getLast?, ¬ last.isNameless = true) ∧ ∀ a ∈ ks, a.reread = a := by
  induction ks with
  | nil => simp [rereadArgs]
  | cons k rest ih =>
      cases rest with
      | nil =>
          rw [rereadArgs, List.getLast?_singleton]
          cases nameless : k.isNameless with
          | true => simp [nameless]
          | false => simp [nameless]
      | cons next rest =>
          rw [rereadArgs, List.cons_eq_cons, ih, List.getLast?_cons_cons,
            List.forall_mem_cons (a := k), and_left_comm]

/-- Nothing is lost from a counterpart when no argument list ends in the unbounded
wildcard. -/
theorem reread_ofJava_eq_self_iff (s : TypeTree) :
    (ofJava s.toRef).reread = ofJava s.toRef ↔
      ∀ t ∈ s.toRef.nodes, ∀ last ∈ t.args.getLast?, last.wildcard ≠ some .unbounded := by
  induction s using inductionOn with
  | anything =>
      refine ⟨fun _ t member => ?_, fun _ => rfl⟩
      rw [toRef, TypeRef.nodes_eq, List.flatMap_nil, List.nil_append, List.mem_singleton] at member
      intro last never
      rw [member] at never
      cases never
  | node bound name args rank ih =>
      have here : ∀ k : KotlinType, k.reread = k ↔ rereadArgs k.args = k.args := by
        intro k
        obtain ⟨package, name, list⟩ := k
        rw [reread]
        exact ⟨congrArg KotlinType.args, congrArg (KotlinType.mk package name)⟩
      rw [here, forall_mem_nodes_node, args_toRef_node]
      rcases args_ofJava_node bound name args rank with same | ⟨rfl, element, same⟩
      · rw [same, rereadArgs_eq_self_iff, List.getLast?_map, List.getLast?_map, and_comm]
        refine and_congr ?_ ?_
        · rw [List.forall_mem_map]
          exact forall₂_congr ih
        · cases args.getLast? with
          | none => simp
          | some last =>
              simp only [Option.map_some, Option.mem_some_iff, forall_eq', isNameless_ofJava, ne_eq]
      · have kept : rereadArgs [builtIn element] = [builtIn element] := rfl
        rw [same]
        simp [kept]

/-- **The round trip.**  The text of a counterpart can be read, and gives what is left of the
counterpart.  It gives all of it exactly when no argument list ends in the unbounded
wildcard. -/
theorem parse_text_ofJava (s : TypeTree) :
    parse (ofJava s.toRef).text = .ok (ofJava s.toRef).reread ∧
      (parse (ofJava s.toRef).text = .ok (ofJava s.toRef) ↔
        ∀ t ∈ s.toRef.nodes, ∀ last ∈ t.args.getLast?, last.wildcard ≠ some .unbounded) := by
  have done : parse (ofJava s.toRef).text = .ok (ofJava s.toRef).reread :=
    read_text (isLegible_ofJava s)
  rw [done, ← reread_ofJava_eq_self_iff]
  exact ⟨rfl, Except.ok.inj, congrArg Except.ok⟩

/-- **An unbounded wildcard can get lost**: its counterpart has no name, and at the end of an
argument list it is not read back. -/
theorem parse_text_wildcard :
    (listOf anything 0).toRef.fullName = "java.util.List<?>" ∧
      (ofJava (listOf anything 0).toRef).text = "java.util.List<>" ∧
      (ofJava (listOf anything 0).toRef).args.length = 1 ∧
      ∃ k, parse (ofJava (listOf anything 0).toRef).text = .ok k ∧ k.args.length = 0 :=
  ⟨by decide +kernel, by decide +kernel, by decide +kernel, exists_eq_ok (by decide +kernel)⟩

end JavaScaffold.KotlinType
