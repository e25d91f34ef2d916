import JavaScaffold.Manifest.Units

/-!
# Sites matter for messages only

A step of the construction is told where its plan stands, and it says so when something is
wrong.  Apart from that the place has no part in it: at two sites, with two source texts,
a step gives the same value, or it fails at both.

## Main Definitions

* `SameOutcome` — two steps that stop at their first problem give the same value or both
  fail
* `Checked.SameValue` — the same for steps that report all their problems

## Main Statements

* `MethodPlan.sameOutcome_build`, `DeclPlan.sameValue_outline` — members and outlines
* `UnitPlan.sameValue_build` — whole units
-/

namespace JavaScaffold

variable {α β : Type}

/-! ### Steps that stop at the first problem -/

/-- **The same outcome**: the same value, or a problem on both sides. -/
def SameOutcome (x y : Except Diagnostic α) : Prop :=
  x.toOption = y.toOption

namespace SameOutcome

variable {x y : Except Diagnostic α}

theorem refl (x : Except Diagnostic α) : SameOutcome x x := rfl

theorem errors (d e : Diagnostic) : SameOutcome (.error d : Except Diagnostic α) (.error e) := rfl

/-- Where outcomes are the same, there are two values or two problems. -/
theorem cases (same : SameOutcome x y) :
    (∃ a, x = .ok a ∧ y = .ok a) ∨ ∃ d e, x = .error d ∧ y = .error e := by
  cases x with
  | ok a =>
      cases y with
      | ok b =>
          obtain rfl : a = b := Option.some.inj same
          exact .inl ⟨a, rfl, rfl⟩
      | error e => cases same
  | error d =>
      cases y with
      | ok b => cases same
      | error e => exact .inr ⟨d, e, rfl, rfl⟩

/-- Two steps one after the other. -/
theorem bind {f g : α → Except Diagnostic β} (first : SameOutcome x y)
    (second : ∀ a, SameOutcome (f a) (g a)) : SameOutcome (x >>= f) (y >>= g) := by
  rcases first.cases with ⟨a, rfl, rfl⟩ | ⟨d, e, rfl, rfl⟩
  · exact second a
  · exact errors d e

/-- A step for each item of a list. -/
theorem mapM {f g : α → Except Diagnostic β} (each : ∀ a, SameOutcome (f a) (g a)) (as : List α) :
    SameOutcome (as.mapM f) (as.mapM g) := by
  induction as with
  | nil => exact refl _
  | cons a as ih =>
      rw [List.mapM_cons, List.mapM_cons]
      exact (each a).bind fun b => ih.bind fun bs => refl _

end SameOutcome

/-! ### Steps that report everything -/

namespace Checked

/-- **The same value**, or problems on both sides. -/
def SameValue (x y : Checked α) : Prop :=
  x.value? = y.value?

namespace SameValue

variable {x y : Checked α}

theorem refl (x : Checked α) : SameValue x x := rfl

theorem flawed (d e : Diagnostic) (ds es : List Diagnostic) :
    SameValue (.flawed d ds : Checked α) (.flawed e es) := rfl

/-- Where values are the same, there are two of them or problems on both sides. -/
theorem cases (same : SameValue x y) :
    (∃ a, x = .fine a ∧ y = .fine a) ∨ ∃ d ds e es, x = .flawed d ds ∧ y = .flawed e es := by
  cases x with
  | fine a =>
      cases y with
      | fine b =>
          obtain rfl : a = b := Option.some.inj same
          exact .inl ⟨a, rfl, rfl⟩
      | flawed e es => cases same
  | flawed d ds =>
      cases y with
      | fine b => cases same
      | flawed e es => exact .inr ⟨d, ds, e, es, rfl, rfl⟩

theorem ofExcept {x y : Except Diagnostic α} (same : SameOutcome x y) :
    SameValue (.ofExcept x) (.ofExcept y) := by
  rcases same.cases with ⟨a, rfl, rfl⟩ | ⟨d, e, rfl, rfl⟩
  · exact refl _
  · exact flawed d e [] []

theorem map (f : α → β) (same : SameValue x y) : SameValue (x.map f) (y.map f) := by
  rcases same.cases with ⟨a, rfl, rfl⟩ | ⟨d, ds, e, es, rfl, rfl⟩
  · exact refl _
  · exact flawed d e ds es

/-- Two steps side by side. -/
theorem apply {f g : Checked (α → β)} (first : SameValue f g) (second : SameValue x y) :
    SameValue (f <*> x) (g <*> y) := by
  rcases first.cases with ⟨h, rfl, rfl⟩ | ⟨d, ds, e, es, rfl, rfl⟩
  · exact second.map h
  · exact flawed d e _ _

theorem applyLeft {v w : Checked β} (first : SameValue x y) (second : SameValue v w) :
    SameValue (x <* v) (y <* w) :=
  (first.map fun a _ => a).apply second

theorem applyRight {v w : Checked β} (first : SameValue x y) (second : SameValue v w) :
    SameValue (x *> v) (y *> w) :=
  (first.map fun _ b => b).apply second

/-- A step that goes on from another one. -/
theorem andThen {f g : α → Checked β} (first : SameValue x y)
    (second : ∀ a, SameValue (f a) (g a)) : SameValue (x.andThen f) (y.andThen g) := by
  rcases first.cases with ⟨a, rfl, rfl⟩ | ⟨d, ds, e, es, rfl, rfl⟩
  · exact second a
  · exact flawed d e ds es

/-- A step that is taken only when nothing is `wrong`. -/
theorem ofUnless (wrong : Bool) (d e : Diagnostic) (same : SameValue x y) :
    SameValue (if wrong then .flawed d [] else x) (if wrong then .flawed e [] else y) := by
  cases wrong with
  | true => exact flawed d e [] []
  | false => exact same

/-- A rule on its own. -/
theorem guarded (holds : Bool) (d e : Diagnostic) :
    SameValue (.guarded (if holds then none else some d))
      (.guarded (if holds then none else some e)) := by
  cases holds with
  | true => exact refl _
  | false => exact flawed d e [] []

theorem all {f g : α → Checked β} (each : ∀ a, SameValue (f a) (g a)) (as : List α) :
    SameValue (Checked.all f as) (Checked.all g as) := by
  induction as with
  | nil => exact refl _
  | cons a as ih => exact ((each a).map _).apply ih

theorem allAfter {f g : List String → α → Checked β}
    (each : ∀ earlier a, SameValue (f earlier a) (g earlier a)) (name : α → String)
    (earlier : List String) (as : List α) :
    SameValue (Checked.allAfter name f earlier as) (Checked.allAfter name g earlier as) := by
  induction as generalizing earlier with
  | nil => exact refl _
  | cons a as ih => exact ((each earlier a).map _).apply (ih _)

end SameValue

end Checked

/-! ### Names, types and rules -/

section Sites

variable (site site' : PlanSite)

theorem sameOutcome_checkName (name role : String) (allowReserved : Bool) :
    SameOutcome (site.checkName name role allowReserved)
      (site'.checkName name role allowReserved) := by
  unfold PlanSite.checkName
  split
  · exact .errors _ _
  · cases Identifier.flaw? name.toList with
    | none => exact .refl _
    | some flaw => exact .errors _ _

theorem sameOutcome_readType (spec role : String) :
    SameOutcome (site.readType spec role) (site'.readType spec role) := by
  unfold PlanSite.readType
  cases TypeRef.readNamed spec with
  | ok t => exact .refl _
  | error flaw => exact .errors _ _

theorem sameOutcome_ensure (holds : Bool) (d e : Diagnostic) :
    SameOutcome (ensure holds d) (ensure holds e) := by
  cases holds with
  | true => exact .refl _
  | false => exact .errors d e

/-! ### Members -/

theorem TypeParamPlan.sameOutcome_build (p : TypeParamPlan) :
    SameOutcome (p.build site) (p.build site') := by
  refine (sameOutcome_checkName site site' p.name _ _).bind fun _ => ?_
  refine (SameOutcome.mapM (fun spec => sameOutcome_readType site site' spec _) _).bind fun _ => ?_
  exact .refl _

theorem ParamPlan.sameOutcome_build (role : String) (p : ParamPlan) :
    SameOutcome (p.build role site) (p.build role site') := by
  refine (sameOutcome_checkName site site' p.name role _).bind fun _ => ?_
  exact (sameOutcome_readType site site' p.type _).bind fun _ => .refl _

theorem FieldPlan.sameOutcome_build (kind : DeclKind) (p : FieldPlan) :
    SameOutcome (p.build kind site) (p.build kind site') := by
  refine (sameOutcome_checkName site site' p.name _ p.allowReserved).bind fun _ => ?_
  refine (sameOutcome_readType site site' p.type _).bind fun _ => ?_
  exact (sameOutcome_ensure (p.isVisible kind) _ _).bind fun _ => .refl _

namespace MethodPlan

theorem sameOutcome_heading (kind : DeclKind) (declared : String) (p : MethodPlan) :
    SameOutcome (p.heading kind declared site) (p.heading kind declared site') := by
  unfold heading
  split
  · refine SameOutcome.bind ?_ fun _ => .refl _
    exact (sameOutcome_ensure _ _ _).bind fun _ => sameOutcome_ensure _ _ _
  · refine SameOutcome.bind ?_ fun _ => ?_
    · exact (sameOutcome_ensure _ _ _).bind fun _ => sameOutcome_checkName site site' p.name _ _
    · refine SameOutcome.bind ?_ fun _ => .refl _
      cases p.returnType with
      | none => exact .refl _
      | some spec => exact (sameOutcome_readType site site' spec _).bind fun _ => .refl _

theorem sameOutcome_build (kind : DeclKind) (declared : String) (p : MethodPlan) :
    SameOutcome (p.build kind declared site) (p.build kind declared site') := by
  refine (p.sameOutcome_heading site site' kind declared).bind fun heading => ?_
  refine SameOutcome.bind ?_ fun _ => ?_
  · exact (sameOutcome_ensure _ _ _).bind fun _ => sameOutcome_ensure _ _ _
  refine (SameOutcome.mapM (fun t => t.sameOutcome_build site site') _).bind fun _ => ?_
  refine (SameOutcome.mapM (fun q => q.sameOutcome_build site site' _) _).bind fun _ => ?_
  refine (SameOutcome.mapM (fun spec => sameOutcome_readType site site' spec _) _).bind fun _ => ?_
  exact .refl _

end MethodPlan

/-! ### Declarations -/

open Checked

namespace DeclPlan

theorem sameValue_superclass (declared : String) (p : DeclPlan) :
    SameValue (p.superclass site declared) (p.superclass site' declared) := by
  unfold superclass
  cases p.superClass with
  | none => exact .refl _
  | some spec =>
      dsimp only
      split
      · exact (SameValue.ofExcept (sameOutcome_readType site site' spec _)).map _
      · exact .flawed _ _ _ _

theorem sameValue_constant (c : String) : SameValue (constant site c) (constant site' c) :=
  .ofExcept ((sameOutcome_checkName site site' (constantName c) _ _).bind fun _ => .refl _)

theorem sameValue_enumConstants (declared : String) (p : DeclPlan) :
    SameValue (p.enumConstants site declared) (p.enumConstants site' declared) :=
  .ofUnless _ _ _ (.all (sameValue_constant site site') p.constants)

theorem sameValue_recordComponents (declared : String) (p : DeclPlan) :
    SameValue (p.recordComponents site declared) (p.recordComponents site' declared) :=
  .ofUnless _ _ _ (.all (fun c => .ofExcept (c.sameOutcome_build site site' _)) p.components)

theorem sameValue_field (kind : DeclKind) (declared : String) (earlier : List String)
    (f : FieldPlan) :
    SameValue (field site kind declared earlier f) (field site' kind declared earlier f) :=
  .ofUnless _ _ _ (.ofExcept (f.sameOutcome_build site site' kind))

theorem sameValue_blocks (declared : String) (p : DeclPlan) :
    SameValue (p.blocks site declared) (p.blocks site' declared) :=
  .ofUnless _ _ _ (.refl _)

/-- A declaration without its nested declarations is the same at every site. -/
theorem sameValue_outline (type : TypeRef) (p : DeclPlan) :
    SameValue (p.outline type site) (p.outline type site') := by
  refine SameValue.applyLeft ?_ (.guarded _ _ _)
  refine SameValue.apply ?_ (.all (fun m => .ofExcept (m.sameOutcome_build site site' _ _)) _)
  refine SameValue.apply ?_ (p.sameValue_blocks site site' _)
  refine SameValue.apply ?_ (.allAfter (sameValue_field site site' p.kind _) _ _ _)
  refine SameValue.apply ?_ (p.sameValue_recordComponents site site' _)
  refine SameValue.apply ?_ (p.sameValue_enumConstants site site' _)
  refine SameValue.apply ?_ (.all (fun spec => .ofExcept (sameOutcome_readType site site' spec _)) _)
  refine SameValue.apply ?_ (p.sameValue_superclass site site' _)
  exact (SameValue.all (fun t => .ofExcept (t.sameOutcome_build site site')) _).map _

theorem sameOutcome_checkNested (earlier : List String) (p : DeclPlan) :
    SameOutcome (p.checkNested site earlier) (p.checkNested site' earlier) :=
  (sameOutcome_checkName site site' p.nestedName _ _).bind fun _ => sameOutcome_ensure _ _ _

theorem sameValue_fileProblem (p : DeclPlan) :
    SameValue (.guarded (p.fileProblem? site)) (.guarded (p.fileProblem? site')) :=
  .guarded _ _ _

end DeclPlan

end Sites

/-! ### Units -/

open Checked

namespace UnitPlan

mutual

/-- A declaration is the same at every site. -/
theorem sameValue_decl (site site' : PlanSite) (type : TypeRef) :
    (u : UnitPlan) → SameValue (u.decl type site) (u.decl type site')
  | ⟨p, nested⟩ => by
    rw [decl, decl]
    exact ((p.sameValue_outline site site' type).map _).apply
      (sameValue_nestedDecls site site' type [] nested)

theorem sameValue_nestedDecls (site site' : PlanSite) (outer : TypeRef) (earlier : List String) :
    (us : List UnitPlan) →
      SameValue (nestedDecls outer site earlier us) (nestedDecls outer site' earlier us)
  | [] => by
    rw [nestedDecls, nestedDecls]
    exact .refl _
  | u :: us => by
    rw [nestedDecls, nestedDecls]
    refine SameValue.apply (SameValue.map _ ?_) (sameValue_nestedDecls site site' outer _ us)
    refine (SameValue.ofExcept (u.sameOutcome_checkNested site site' earlier)).andThen fun _ => ?_
    exact (u.sameValue_fileProblem site site').applyRight (sameValue_decl _ _ _ u)

end

/-- **A unit** is the same at every site. -/
theorem sameValue_build (site site' : PlanSite) (comments : List String) (p : UnitPlan) :
    SameValue (p.build comments site) (p.build comments site') := by
  refine SameValue.andThen (.ofExcept ?_) fun type => ?_
  · refine (sameOutcome_readType site site' p.type _).bind fun t => ?_
    refine (sameOutcome_ensure _ _ _).bind fun _ => ?_
    exact (sameOutcome_checkName site site' t.name _ _).bind fun _ => .refl _
  · refine SameValue.apply ((p.sameValue_decl _ _ type).map _) (.all (fun spec => ?_) p.imports)
    exact .ofExcept (sameOutcome_readType _ _ spec _)

end UnitPlan

end JavaScaffold
