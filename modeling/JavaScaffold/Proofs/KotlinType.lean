import JavaScaffold.KotlinType
import JavaScaffold.Proofs.TypeRef.Reading
import Mathlib.Logic.Relation

/-!
# Kotlin types are read like Java references

There is a reader for Java references and one for Kotlin types.  They trim at different
points, and only the first one knows wildcards: for the second one the question mark and
the words behind it are a part of the name.  Both cut a specification at the same
brackets all the same, so they accept the same texts, fail for the same cause, and give
trees of the same shape with the same names.

## Main Definitions

* `ReadAlike` — two readings that both succeed, with related results, or both fail for
  the same cause
* `KotlinType.Mirrors` — a Kotlin type of the shape of a reference, with the same name
  at each node that is not a wildcard

## Main Statements

* `KotlinType.read_eq` — what the reader of Kotlin types does
* `KotlinType.read_around` — text around a specification goes to the outermost name alone
* `KotlinType.parse_mirrors` — every text is read alike as a reference and as a type

## Design Notes

The induction follows the recursion of the reader of references.  A wildcard is the one
case in which the two recursions part: that reader goes on with the bound, and the
other one reads the whole text at once.
-/

namespace JavaScaffold

variable {spec bound name arguments trailing front back : List Char}
  {segments : List (List Char)}

/-! ### Outcomes -/

/-- Two errors of the same kind.  The texts that they name may differ. -/
inductive SpecError.SameCause : SpecError → SpecError → Prop
  | unclosed (spec spec' : String) : SameCause (.unclosed spec) (.unclosed spec')
  | unbalanced (spec spec' : String) : SameCause (.unbalanced spec) (.unbalanced spec')

theorem SpecError.SameCause.refl (cause : SpecError) : cause.SameCause cause := by
  cases cause with
  | unclosed spec => exact .unclosed spec spec
  | unbalanced spec => exact .unbalanced spec spec

theorem SpecError.SameCause.trans {a b c : SpecError} (first : a.SameCause b)
    (second : b.SameCause c) : a.SameCause c := by
  cases first with
  | unclosed =>
      cases second
      exact .unclosed _ _
  | unbalanced =>
      cases second
      exact .unbalanced _ _

/-- **Two readings come out alike** when both succeed with related results, or both fail
for the same cause. -/
inductive ReadAlike {α β : Type} (R : α → β → Prop) :
    Except SpecError α → Except SpecError β → Prop
  | ok {a : α} {b : β} (related : R a b) : ReadAlike R (.ok a) (.ok b)
  | error {cause cause' : SpecError} (same : cause.SameCause cause') :
      ReadAlike R (.error cause) (.error cause')

namespace ReadAlike

variable {α β γ δ : Type} {R : α → β → Prop} {S : γ → δ → Prop} {x : Except SpecError α}
  {y : Except SpecError β}

theorem map {f : α → γ} {g : β → δ} (alike : ReadAlike R x y)
    (keeps : ∀ a b, R a b → S (f a) (g b)) : ReadAlike S (x.map f) (y.map g) := by
  cases alike with
  | ok related => exact .ok (keeps _ _ related)
  | error same => exact .error same

theorem bind {f : α → Except SpecError γ} {g : β → Except SpecError δ} (alike : ReadAlike R x y)
    (next : ∀ a b, R a b → ReadAlike S (f a) (g b)) : ReadAlike S (x >>= f) (y >>= g) := by
  cases alike with
  | ok related => exact next _ _ related
  | error same => exact .error same

theorem map_left {f : α → γ} {T : γ → β → Prop} (alike : ReadAlike R x y)
    (keeps : ∀ a b, R a b → T (f a) b) : ReadAlike T (x.map f) y := by
  cases alike with
  | ok related => exact .ok (keeps _ _ related)
  | error same => exact .error same

theorem trans {T : β → γ → Prop} {z : Except SpecError γ} (first : ReadAlike R x y)
    (second : ReadAlike T y z) : ReadAlike (Relation.Comp R T) x z := by
  cases first with
  | ok related =>
      cases second with
      | ok related' => exact .ok ⟨_, related, related'⟩
  | error same =>
      cases second with
      | error same' => exact .error (same.trans same')

end ReadAlike

namespace KotlinType

/-! ### The reader -/

/-- The Kotlin type of a name has the package and the name of the node of that name. -/
theorem ofName_eq (name : List Char) :
    ofName name =
      { package := (TypeNode.ofName name).package, name := (TypeNode.ofName name).name } := by
  rw [ofName, TypeNode.ofName]
  cases Text.splitLast '.' (Text.trim name) with
  | none => rfl
  | some parts => rfl

theorem ofName_congr {other : List Char} (same : Text.trim name = Text.trim other) :
    ofName name = ofName other := by
  rw [ofName, ofName, same]

/-- **What the reader does.**  It trims the text first, but the cut at the brackets is that
of the text as it stands. -/
theorem read_eq (spec : List Char) :
    read spec =
      match Bracketing.of spec with
      | .plain name => .ok { ofName name with args := [] }
      | .unclosed => .error (.unclosed (String.ofList (Text.trim spec)))
      | .generic name arguments _ =>
        match splitArguments arguments with
        | none => .error (.unbalanced (String.ofList (Text.trim spec)))
        | some segments =>
          (readAll segments).map fun args => { ofName name with args := args } := by
  obtain ⟨front, back, blankFront, blankBack, parts⟩ := Text.exists_pads spec
  have cut : Bracketing.of spec = (Bracketing.of (Text.trim spec)).around front back := by
    rw [← Bracketing.of_pad blankFront _ blankBack, ← parts]
  rw [read]
  split
  · next name found =>
      rw [cut, found, ← ofName_congr (Text.trim_pad blankFront name blankBack)]
      dsimp only [Bracketing.around]
      rw [ofName_eq]
      rfl
  · next found =>
      rw [cut, found]
      rfl
  · next name arguments trailing found =>
      rw [cut, found, ← ofName_congr (Text.trim_blanks_append blankFront name)]
      dsimp only [Bracketing.around]
      split
      · next unbalanced =>
          rw [unbalanced]
          rfl
      · next segments balanced =>
          rw [balanced]
          dsimp only
          cases readAll segments with
          | error cause => rfl
          | ok args => rfl

/-! ### Wildcards -/

/-- **Text around a specification** goes to the name of the outermost node alone, as long
as there is no bracket in it. -/
theorem read_around (plainFront : '<' ∉ front) (bound : List Char)
    (blankBack : Text.isBlankText back = true) :
    ReadAlike (fun k k' => k.args = k'.args) (read bound) (read (front ++ bound ++ back)) := by
  have plainBack : '<' ∉ back := Text.not_mem_of_isBlankText blankBack rfl
  have noClosing : '>' ∉ back := Text.not_mem_of_isBlankText blankBack rfl
  rw [read_eq, read_eq, Bracketing.of_around plainFront bound plainBack noClosing]
  cases Bracketing.of bound with
  | plain name => exact .ok rfl
  | unclosed => exact .error (.unclosed _ _)
  | generic name arguments trailing =>
      dsimp only [Bracketing.around]
      cases splitArguments arguments with
      | none => exact .error (.unbalanced _ _)
      | some segments =>
          dsimp only
          cases readAll segments with
          | error cause => exact .error (.refl cause)
          | ok args => exact .ok rfl

/-! ### Trees -/

/-- **A Kotlin type mirrors a reference** when the two trees have the same shape, and the
same package and name at each node of the reference that is not a wildcard. -/
inductive Mirrors : TypeRef → KotlinType → Prop
  | node {t : TypeRef} {k : KotlinType}
      (named : t.wildcard = none → k.package = t.package ∧ k.name = t.name)
      (args : List.Forall₂ Mirrors t.args k.args) : Mirrors t k

/-- At a wildcard only the trees below it count. -/
theorem Mirrors.wildcard {t : TypeRef} {k k' : KotlinType} (mirrors : Mirrors t k)
    (same : k.args = k'.args) (w : Wildcard) : Mirrors { t with wildcard := some w } k' := by
  cases mirrors with
  | node named args =>
      refine .node (fun plain => ?_) (same ▸ args)
      cases plain

/-- A name makes a node and a type that agree, above trees of the same shapes. -/
theorem Mirrors.ofName (name : List Char) {ts : List TypeRef} {ks : List KotlinType}
    (args : List.Forall₂ Mirrors ts ks) (brackets : String) (isArray : Bool) :
    Mirrors
      { TypeNode.ofName name with args := ts, brackets := brackets, isArray := isArray }
      { KotlinType.ofName name with args := ks } := by
  refine .node (fun _ => ?_) args
  rw [ofName_eq]
  exact ⟨rfl, rfl⟩

/-- The texts of a list are read alike when each of them is. -/
theorem readAll_mirrors_cons {segment : List Char} {rest : List (List Char)}
    (first : ReadAlike Mirrors (TypeRef.read segment) (read segment))
    (others : ReadAlike (List.Forall₂ Mirrors) (TypeRef.readAll rest) (readAll rest)) :
    ReadAlike (List.Forall₂ Mirrors) (TypeRef.readAll (segment :: rest))
      (readAll (segment :: rest)) := by
  rw [TypeRef.readAll, readAll]
  exact first.bind fun _ _ here => others.bind fun _ _ later => .ok (.cons here later)

theorem read_mirrors (spec : List Char) :
    ReadAlike Mirrors (TypeRef.read spec) (read spec) := by
  refine TypeRef.read.induct
    (fun spec => ReadAlike Mirrors (TypeRef.read spec) (read spec))
    (fun segments =>
      ReadAlike (List.Forall₂ Mirrors) (TypeRef.readAll segments) (readAll segments))
    ?wildcard ?plain ?unclosed ?unbalanced ?generic ?nil ?cons spec
  case wildcard =>
    -- The reader of references goes on with the bound, the other one reads all of it.
    intro spec w bound marked alike
    obtain ⟨front, back, plainFront, blankBack, rfl⟩ := TypeRef.exists_around_bound marked
    rw [TypeRef.read_of_wildcard marked]
    refine (alike.trans (read_around plainFront bound blankBack)).map_left ?_
    rintro t k' ⟨k, mirrors, same⟩
    exact mirrors.wildcard same w
  case plain =>
    intro spec unmarked name cut
    rw [TypeRef.read_of_plain unmarked cut, read_eq, cut]
    exact .ok (.ofName name .nil _ _)
  case unclosed =>
    intro spec unmarked cut
    rw [TypeRef.read_of_unclosed unmarked cut, read_eq, cut]
    exact .error (.unclosed _ _)
  case unbalanced =>
    intro spec unmarked name arguments trailing cut unbalanced
    rw [TypeRef.read_of_unbalanced unmarked cut unbalanced, read_eq, cut]
    dsimp only
    rw [unbalanced]
    exact .error (.unbalanced _ _)
  case generic =>
    intro spec unmarked name arguments trailing cut segments balanced args
    rw [TypeRef.read_of_generic unmarked cut balanced, read_eq, cut]
    dsimp only
    rw [balanced]
    exact args.map fun ts ks below => .ofName name below _ _
  case nil =>
    rw [TypeRef.readAll, readAll]
    exact .ok .nil
  case cons =>
    intro segment rest first others
    exact readAll_mirrors_cons first others

/-- **Every text is read alike** as a reference and as a Kotlin type. -/
theorem parse_mirrors (spec : String) :
    ReadAlike Mirrors (TypeRef.parse spec) (parse spec) :=
  read_mirrors spec.toList

end KotlinType

end JavaScaffold
