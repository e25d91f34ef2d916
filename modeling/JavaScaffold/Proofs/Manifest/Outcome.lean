import JavaScaffold.Manifest.Checked
import JavaScaffold.Manifest.Members
import JavaScaffold.Proofs.Identifier
import Mathlib.Data.List.Forall2

/-!
# What a step of the construction does

A step that builds a member asks a number of checks one after the other and stops at
the first one that fails.  A step that builds a declaration asks several such groups
of checks, and reports the first failure of each of them.  This module gives the two
kinds of steps one form of specification each, and says how the specification of a
step follows from those of its parts.

## Main Definitions

* `Check`, `PlanSite.problem?` — one check, and its problem when it fails
* `CheckGroup` — checks that are asked until one fails
* `Outcome` — the specification of a step that stops at its first problem
* `Report` — the specification of a step that reports the problems of all its groups

## Main Statements

* `Outcome.bind`, `Outcome.mapM` — steps one after the other
* `Report.apply`, `Report.all`, `Report.andThen` — steps side by side, and a step that
  goes on from another one
-/

namespace JavaScaffold

/-! ### Checks -/

/-- A check of one text of a plan. -/
inductive Check
  /-- A name in its role. -/
  | name (name role : String) (allowReserved : Bool)
  /-- A type in its role. -/
  | type (spec role : String)
  /-- A rule about several texts, which shows at one of them. -/
  | rule (holds : Bool) (message needle : String)

/-- The problem of a step that has failed. -/
def failure? {α : Type} : Except Diagnostic α → Option Diagnostic
  | .ok _ => none
  | .error problem => some problem

/-- The problem of a check, when it fails. -/
def PlanSite.problem? (site : PlanSite) : Check → Option Diagnostic
  | .name name role allowReserved => failure? (site.checkName name role allowReserved)
  | .type spec role => failure? (site.readType spec role)
  | .rule holds message needle => failure? (ensure holds (site.broken message needle))

/-- **Checks that are asked at one place**, one after the other, until one fails. -/
structure CheckGroup where
  site : PlanSite
  checks : List Check

/-- The first problem of a group. -/
def CheckGroup.problem? (g : CheckGroup) : Option Diagnostic :=
  g.checks.findSome? g.site.problem?

/-- A usable name passes in every role. -/
theorem PlanSite.problem?_name {name : String} (usable : Identifier.IsUsable name)
    (site : PlanSite) (role : String) (allowReserved : Bool) :
    site.problem? (.name name role allowReserved) = none := by
  rw [problem?, checkName, usable.free, Bool.and_false, if_neg Bool.false_ne_true,
    usable.flawless]
  rfl

/-- A rule that holds is no problem. -/
theorem PlanSite.problem?_rule {holds : Bool} (rule : holds = true) (site : PlanSite)
    (message needle : String) : site.problem? (.rule holds message needle) = none := by
  rw [rule]
  rfl

theorem PlanSite.problem?_name_eq_none_iff {site : PlanSite} {name role : String}
    {allowReserved : Bool} :
    site.problem? (.name name role allowReserved) = none ↔
      (allowReserved = false → Identifier.isReserved name = false) ∧
        Identifier.flaw? name.toList = none := by
  rw [problem?, checkName]
  cases allowReserved <;> cases Identifier.isReserved name <;>
    cases Identifier.flaw? name.toList <;> simp [failure?]

/-- A name that passes, without leave to be a reserved word, is usable. -/
theorem PlanSite.isUsable_of_problem?_name {site : PlanSite} {name role : String}
    (passed : site.problem? (.name name role false) = none) : Identifier.IsUsable name := by
  obtain ⟨free, flawless⟩ := PlanSite.problem?_name_eq_none_iff.mp passed
  exact ⟨free rfl, flawless⟩

/-- **A name passes** when it is legal, and the empty name passes as well. -/
theorem PlanSite.problem?_name_iff_isLegal {site : PlanSite} {name role : String}
    {allowReserved : Bool} :
    site.problem? (.name name role allowReserved) = none ↔
      (name ≠ "" → Identifier.IsLegal allowReserved name) := by
  rw [problem?_name_eq_none_iff, Identifier.isLegal_iff]
  constructor
  · intro both given
    exact ⟨given, both⟩
  · intro legal
    by_cases empty : name = ""
    · subst empty
      exact ⟨fun _ => by decide, rfl⟩
    · exact (legal empty).2

theorem PlanSite.problem?_rule_eq_none_iff {site : PlanSite} {holds : Bool}
    {message needle : String} :
    site.problem? (.rule holds message needle) = none ↔ holds = true := by
  rw [problem?]
  cases holds <;> simp [ensure, failure?]

/-- A group has no problem when all of its checks pass. -/
theorem CheckGroup.problem?_eq_none_iff {g : CheckGroup} :
    g.problem? = none ↔ ∀ check ∈ g.checks, g.site.problem? check = none :=
  List.findSome?_eq_none_iff

/-- Where each item has a group at one place, the checks of all items pass when the groups
have no problem. -/
theorem CheckGroup.passed_of_map {α : Type} {site : PlanSite} {checks : α → List Check}
    {as : List α}
    (passed : ∀ g ∈ as.map fun a => CheckGroup.mk site (checks a), g.problem? = none) :
    ∀ a ∈ as, ∀ check ∈ checks a, site.problem? check = none := by
  intro a member
  exact problem?_eq_none_iff.mp (passed _ (List.mem_map_of_mem member))

/-- A check that passes may stand in front. -/
theorem CheckGroup.problem?_cons {site : PlanSite} {check : Check} {checks : List Check}
    (passed : site.problem? check = none) :
    CheckGroup.problem? ⟨site, check :: checks⟩ = CheckGroup.problem? ⟨site, checks⟩ := by
  rw [problem?, problem?, List.findSome?_cons, passed]

variable {α β : Type} {site : PlanSite} {checks more : List Check} {Good : α → Prop}
  {Fine : β → Prop}

/-! ### Steps that stop at the first problem -/

/-- **A step with an outcome** fails with the first problem of its checks, and gives
something good when none of them fails. -/
structure Outcome (site : PlanSite) (checks : List Check) (Good : α → Prop)
    (x : Except Diagnostic α) : Prop where
  passed : checks.findSome? site.problem? = none → ∃ a, x = .ok a ∧ Good a
  failed : ∀ problem, checks.findSome? site.problem? = some problem → x = .error problem

namespace Outcome

variable {x : Except Diagnostic α}

/-- A step without checks. -/
theorem pure {a : α} (good : Good a) : Outcome site [] Good (.ok a) where
  passed := fun _ => ⟨a, rfl, good⟩
  failed := nofun

/-- A step that is a single check. -/
theorem single {check : Check} (same : site.problem? check = failure? x)
    (good : ∀ a, x = .ok a → Good a) : Outcome site [check] Good x := by
  constructor
  · rw [List.findSome?_singleton, same]
    cases x with
    | ok a => exact fun _ => ⟨a, rfl, good a rfl⟩
    | error problem => nofun
  · rw [List.findSome?_singleton, same]
    cases x with
    | ok a => nofun
    | error problem =>
        intro other found
        cases found
        rfl

/-- What comes out well is good. -/
theorem good_of_eq_ok {a : α} (step : Outcome site checks Good x) (done : x = .ok a) : Good a := by
  cases found : checks.findSome? site.problem? with
  | none =>
      obtain ⟨b, result, good⟩ := step.passed found
      cases result.symm.trans done
      exact good
  | some problem => cases (step.failed problem found).symm.trans done

theorem mono {Fine : α → Prop} (step : Outcome site checks Good x) (fine : ∀ a, Good a → Fine a) :
    Outcome site checks Fine x where
  passed := fun found => (step.passed found).imp fun a both => ⟨both.1, fine a both.2⟩
  failed := step.failed

/-- **Two steps one after the other** ask the checks of both. -/
theorem bind {f : α → Except Diagnostic β} (first : Outcome site checks Good x)
    (second : ∀ a, Good a → Outcome site more Fine (f a)) :
    Outcome site (checks ++ more) Fine (x >>= f) := by
  -- Whether the second step is taken at all is decided by the checks of the first one.
  cases found : checks.findSome? site.problem? with
  | none =>
      obtain ⟨a, rfl, good⟩ := first.passed found
      constructor
      · rw [List.findSome?_append, found, Option.none_or]
        exact (second a good).passed
      · rw [List.findSome?_append, found]
        exact (second a good).failed
  | some problem =>
      rw [first.failed problem found]
      constructor
      · rw [List.findSome?_append, found, Option.some_or]
        nofun
      · intro other same
        rw [List.findSome?_append, found, Option.some_or] at same
        cases same
        rfl

/-- A step whose result is put into another form. -/
theorem map {f : α → β} (step : Outcome site checks Good x) (fine : ∀ a, Good a → Fine (f a)) :
    Outcome site checks Fine (x >>= fun a => .ok (f a)) := by
  have whole := step.bind (f := fun a => .ok (f a)) fun a good => Outcome.pure (fine a good)
  rwa [List.append_nil] at whole

/-- **A step for each item of a list.** -/
theorem mapM {Good : α → β → Prop} {checks : α → List Check} {f : α → Except Diagnostic β}
    (as : List α) (each : ∀ a ∈ as, Outcome site (checks a) (Good a) (f a)) :
    Outcome site (as.flatMap checks) (List.Forall₂ Good as) (as.mapM f) := by
  induction as with
  | nil => exact Outcome.pure .nil
  | cons a as ih =>
      rw [List.mapM_cons, List.flatMap_cons]
      refine (each a List.mem_cons_self).bind fun b good => ?_
      refine (ih fun a' member => each a' (List.mem_cons_of_mem _ member)).map fun bs all => ?_
      exact .cons good all

end Outcome

/-! ### Single checks -/

theorem outcome_checkName (site : PlanSite) (name role : String) (allowReserved : Bool) :
    Outcome site [.name name role allowReserved] (fun _ => True)
      (site.checkName name role allowReserved) :=
  .single rfl fun _ _ => trivial

theorem outcome_ensure (site : PlanSite) (holds : Bool) (message needle : String) :
    Outcome site [.rule holds message needle] (fun _ => holds = true)
      (ensure holds (site.broken message needle)) := by
  refine .single rfl fun a done => ?_
  cases holds with
  | true => rfl
  | false => cases done

/-! ### Steps that report everything -/

/-- **A step with a report** has the problems of its groups, in their order, and gives
something good when there is none. -/
structure Report (groups : List CheckGroup) (Good : α → Prop) (x : Checked α) : Prop where
  problems_eq : x.problems = groups.filterMap CheckGroup.problem?
  good : ∀ a, x = .fine a → Good a

/-- A group with the groups that are looked at only when it has no problem. -/
def headed (g : CheckGroup) (groups : List CheckGroup) : List CheckGroup :=
  g :: if g.problem?.isNone then groups else []

theorem headed_of_passed {g : CheckGroup} {groups : List CheckGroup} (passed : g.problem? = none) :
    headed g groups = g :: groups := by
  rw [headed, passed, Option.isNone_none, if_pos rfl]

theorem subset_headed {g : CheckGroup} {groups : List CheckGroup} (passed : g.problem? = none) :
    groups ⊆ headed g groups := by
  rw [headed_of_passed passed]
  exact List.subset_cons_self g groups

/-- Where the groups of both have passed, the second ones have been looked at. -/
theorem passed_of_headed {g : CheckGroup} {groups : List CheckGroup}
    (passed : ∀ h ∈ headed g groups, h.problem? = none) : ∀ h ∈ groups, h.problem? = none :=
  fun h member => passed h (subset_headed (passed g List.mem_cons_self) member)

/-- What `f` gives for each item of a list, where `f` is told the names of the items
before. -/
def flatMapAfter (name : α → String) (f : List String → α → List β) :
    List String → List α → List β
  | _, [] => []
  | earlier, a :: as => f earlier a ++ flatMapAfter name f (name a :: earlier) as

/-- Each item is looked at behind the names of the items before. -/
theorem subset_flatMapAfter (name : α → String) (f : List String → α → List β)
    (earlier : List String) (before : List α) (a : α) (after : List α) :
    f ((before.map name).reverse ++ earlier) a ⊆
      flatMapAfter name f earlier (before ++ a :: after) := by
  induction before generalizing earlier with
  | nil => exact List.subset_append_left _ _
  | cons b before ih =>
      rw [List.map_cons, List.reverse_cons, List.append_assoc, List.singleton_append,
        List.cons_append, flatMapAfter]
      exact List.subset_append_of_subset_right _ (ih (name b :: earlier))

/-- A name comes for the first time when it is none of the names before. -/
theorem not_contains_iff {name : String} {before : List String} :
    (!(before.reverse ++ []).contains name) = true ↔ name ∉ before := by
  rw [Bool.not_eq_true', List.contains_eq_mem, decide_eq_false_iff_not, List.append_nil,
    List.mem_reverse]

namespace Report

variable {groups others : List CheckGroup} {g : CheckGroup} {x : Checked α}

/-- A step without checks. -/
theorem fine {a : α} (good : Good a) : Report [] Good (.fine a) where
  problems_eq := rfl
  good := by
    intro b done
    cases done
    exact good

/-- A step that stops at its first problem has one group. -/
theorem ofExcept {e : Except Diagnostic α} (step : Outcome site checks Good e) :
    Report [⟨site, checks⟩] Good (.ofExcept e) where
  problems_eq := by
    rw [List.filterMap_cons, List.filterMap_nil, CheckGroup.problem?]
    dsimp only
    cases found : checks.findSome? site.problem? with
    | none =>
        obtain ⟨a, rfl, -⟩ := step.passed found
        rfl
    | some problem =>
        rw [step.failed problem found]
        rfl
  good := by
    intro a done
    cases e with
    | ok b =>
        cases done
        exact step.good_of_eq_ok rfl
    | error problem => cases done

/-- Where a step gives something, all its groups have passed. -/
theorem passed {a : α} (step : Report groups Good x) (done : x = .fine a) :
    ∀ g ∈ groups, g.problem? = none := by
  have problems := step.problems_eq
  rw [done, Checked.problems_fine] at problems
  exact List.filterMap_eq_nil_iff.mp problems.symm

theorem mono {Fine : α → Prop} (step : Report groups Good x) (fine : ∀ a, Good a → Fine a) :
    Report groups Fine x :=
  ⟨step.problems_eq, fun a done => fine a (step.good a done)⟩

theorem map {f : α → β} (step : Report groups Good x) (good : ∀ a, Good a → Fine (f a)) :
    Report groups Fine (x.map f) where
  problems_eq := by rw [Checked.problems_map, step.problems_eq]
  good := by
    intro b done
    obtain ⟨a, found, rfl⟩ := Checked.map_eq_fine_iff.mp done
    exact good a (step.good a found)

/-- **Two steps side by side** report the problems of both. -/
theorem apply {f : Checked (α → β)}
    (first : Report groups (fun h => ∀ a, Good a → Fine (h a)) f)
    (second : Report others Good x) : Report (groups ++ others) Fine (f <*> x) where
  problems_eq := by
    rw [Checked.seq_eq, Checked.problems_apply, first.problems_eq, second.problems_eq,
      List.filterMap_append]
  good := by
    intro b done
    obtain ⟨h, a, foundF, found, rfl⟩ := Checked.apply_eq_fine_iff.mp done
    exact first.good h foundF a (second.good a found)

/-- Of two steps side by side, the result of the first one. -/
theorem applyLeft {y : Checked β} (first : Report groups Good x) (second : Report others Fine y) :
    Report (groups ++ others) Good (x <* y) :=
  (first.map fun _ good _ _ => good).apply second

/-- Of two steps side by side, the result of the second one. -/
theorem applyRight {y : Checked β} (first : Report groups Good x) (second : Report others Fine y) :
    Report (groups ++ others) Fine (x *> y) :=
  (first.map fun _ _ _ good => good).apply second

theorem cons {Good : α → β → Prop} {a : α} {as : List α} {y : Checked β} {ys : Checked (List β)}
    (first : Report groups (Good a) y) (later : Report others (List.Forall₂ Good as) ys) :
    Report (groups ++ others) (List.Forall₂ Good (a :: as)) (List.cons <$> y <*> ys) :=
  (first.map fun _ good _ all => .cons good all).apply later

theorem all {Good : α → β → Prop} {groups : α → List CheckGroup} {step : α → Checked β}
    (as : List α) (each : ∀ a ∈ as, Report (groups a) (Good a) (step a)) :
    Report (as.flatMap groups) (List.Forall₂ Good as) (Checked.all step as) := by
  induction as with
  | nil => exact fine .nil
  | cons a as ih =>
      rw [Checked.all, List.flatMap_cons]
      exact (each a List.mem_cons_self).cons
        (ih fun a' member => each a' (List.mem_cons_of_mem _ member))

theorem allAfter {Good : α → β → Prop} {name : α → String}
    {groups : List String → α → List CheckGroup} {step : List String → α → Checked β}
    (earlier : List String) (as : List α)
    (each : ∀ earlier, ∀ a ∈ as, Report (groups earlier a) (Good a) (step earlier a)) :
    Report (flatMapAfter name groups earlier as) (List.Forall₂ Good as)
      (Checked.allAfter name step earlier as) := by
  induction as generalizing earlier with
  | nil => exact fine .nil
  | cons a as ih =>
      rw [Checked.allAfter, flatMapAfter]
      exact (each earlier a List.mem_cons_self).cons
        (ih _ fun earlier a' member => each earlier a' (List.mem_cons_of_mem _ member))

/-- **A step that goes on from another one** is looked at only when that one has no
problem. -/
theorem andThen {f : α → Checked β} (first : Report [g] Good x)
    (second : ∀ a, Good a → Report others Fine (f a)) :
    Report (headed g others) Fine (x.andThen f) := by
  cases x with
  | fine a =>
      have passed := first.problems_eq
      have later := second a (first.good a rfl)
      rw [Checked.problems_fine, List.filterMap_cons, List.filterMap_nil] at passed
      cases none : g.problem? with
      | none =>
          refine ⟨?_, later.good⟩
          rw [headed_of_passed none, List.filterMap_cons_none none]
          exact later.problems_eq
      | some problem =>
          rw [none] at passed
          cases passed
  | flawed problem rest =>
      have failed := first.problems_eq
      rw [Checked.problems_flawed, List.filterMap_cons, List.filterMap_nil] at failed
      refine ⟨?_, fun b never => nomatch never⟩
      cases found : g.problem? with
      | none =>
          rw [found] at failed
          cases failed
      | some other =>
          -- Nothing behind `g` is looked at, and `headed` leaves it out as well.
          rw [found] at failed
          rw [headed, found, Option.isNone_some, if_neg Bool.false_ne_true,
            List.filterMap_cons_some found]
          exact failed

/-- A step that is taken only when nothing is `wrong`. -/
theorem ofUnless (wrong : Bool) (message needle : String) (step : Report others Good x) :
    Report (headed ⟨site, [.rule (!wrong) message needle]⟩ others) Good
      (if wrong then .flawed (site.broken message needle) [] else x) := by
  have rule := Report.ofExcept (outcome_ensure site (!wrong) message needle)
  have whole := rule.andThen (f := fun _ => x) fun _ _ => step
  cases wrong with
  | true => exact whole
  | false => exact whole

/-- A step that stops at its first problem, which may be that something is `wrong`. -/
theorem ofExceptUnless (wrong : Bool) (message needle : String) {e : Except Diagnostic α}
    (step : Outcome site checks Good e) :
    Report [⟨site, .rule (!wrong) message needle :: checks⟩] Good
      (if wrong then .flawed (site.broken message needle) [] else .ofExcept e) := by
  have whole := Report.ofExcept
    ((outcome_ensure site (!wrong) message needle).bind fun _ _ => step)
  cases wrong with
  | true => exact whole
  | false => exact whole

/-- A rule on its own. -/
theorem guarded (site : PlanSite) (holds : Bool) (message needle : String) :
    Report [⟨site, [.rule holds message needle]⟩] (fun _ => True)
      (.guarded (if holds then none else some (site.broken message needle))) := by
  have whole : Report [⟨site, [.rule holds message needle]⟩] (fun _ => True)
      (.ofExcept (ensure holds (site.broken message needle))) :=
    (Report.ofExcept (outcome_ensure site holds message needle)).mono fun _ _ => trivial
  cases holds with
  | true => exact whole
  | false => exact whole

end Report

end JavaScaffold
