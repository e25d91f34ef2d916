import JavaScaffold.Manifest.Diagnostic

/-!
# Results with all their problems

A step of the construction that fails has one cause, and is an `Except Diagnostic`.  Where steps do
not depend on each other, the problems of all of them are to be reported, and that is `Checked`.

## Main Definitions

* `Checked` — a value, or one problem or more
* `Checked.map`, `Checked.apply` — the results of independent steps put together
* `Checked.all` — the results of a step for each item of a list
* `Checked.allAfter` — the same, where a step knows the names of the items before
* `Checked.problems`, `Checked.value?` — the two views

## Design Notes

A result that has a value has no problem, and the other way round.  So what has been built of a
faulty manifest cannot be used by accident.
-/

namespace JavaScaffold

/-- A value, or one problem or more. -/
inductive Checked (α : Type) where
  | fine (value : α)
  | flawed (first : Diagnostic) (others : List Diagnostic)

namespace Checked

variable {α β : Type}

/-- The problems of a result, in the order in which they were found. -/
def problems : Checked α → List Diagnostic
  | fine _ => []
  | flawed first others => first :: others

/-- The value of a result without problems. -/
def value? : Checked α → Option α
  | fine a => some a
  | flawed .. => none

/-- The result of a step that fails with one problem. -/
def ofExcept : Except Diagnostic α → Checked α
  | .ok a => fine a
  | .error problem => flawed problem []

/-- Nothing but a problem if there is one. -/
def guarded : Option Diagnostic → Checked Unit
  | none => fine ()
  | some problem => flawed problem []

/-- The result with `f` applied to its value. -/
def map (f : α → β) : Checked α → Checked β
  | fine a => fine (f a)
  | flawed first others => flawed first others

/-- The results of two independent steps put together: their problems, those of the first step
before those of the second. -/
def apply : Checked (α → β) → Checked α → Checked β
  | fine f, x => x.map f
  | flawed first others, x => flawed first (others ++ x.problems)

/-- The result of a step that goes on from the value of another one. -/
def andThen (x : Checked α) (f : α → Checked β) : Checked β :=
  match x with
  | fine a => f a
  | flawed first others => flawed first others

instance : Applicative Checked where
  pure := fine
  map := Checked.map
  seq f x := f.apply (x ())

/-- The results of a step for each item of a list. -/
def all (step : α → Checked β) : List α → Checked (List β)
  | [] => fine []
  | a :: as => (List.cons <$> step a) <*> all step as

/-- The results of a step for each item of a list, where a step knows the names of the items
before. -/
def allAfter (name : α → String) (step : List String → α → Checked β) :
    List String → List α → Checked (List β)
  | _, [] => fine []
  | earlier, a :: as =>
    (List.cons <$> step earlier a) <*> allAfter name step (name a :: earlier) as

@[simp] theorem map_eq (f : α → β) (x : Checked α) : f <$> x = x.map f := rfl

@[simp] theorem seq_eq (f : Checked (α → β)) (x : Checked α) : f <*> x = f.apply x := rfl

@[simp] theorem problems_fine (a : α) : (fine a).problems = [] := rfl

@[simp] theorem problems_flawed (first : Diagnostic) (others : List Diagnostic) :
    (flawed first others : Checked α).problems = first :: others := rfl

@[simp] theorem problems_map (f : α → β) (x : Checked α) : (x.map f).problems = x.problems := by
  cases x <;> rfl

@[simp] theorem problems_apply (f : Checked (α → β)) (x : Checked α) :
    (f.apply x).problems = f.problems ++ x.problems := by
  cases f <;> simp [apply]

theorem map_eq_fine_iff {f : α → β} {x : Checked α} {b : β} :
    x.map f = fine b ↔ ∃ a, x = fine a ∧ f a = b := by
  cases x <;> simp [map]

theorem apply_eq_fine_iff {f : Checked (α → β)} {x : Checked α} {b : β} :
    f.apply x = fine b ↔ ∃ g a, f = fine g ∧ x = fine a ∧ g a = b := by
  cases f <;> simp [apply, map_eq_fine_iff]

theorem applyRight_eq_fine_iff {x : Checked α} {y : Checked β} {b : β} :
    x *> y = fine b ↔ (∃ a, x = fine a) ∧ y = fine b := by
  have unfolded : x *> y = (x.map fun _ c => c).apply y := rfl
  rw [unfolded]
  cases x <;> cases y <;> simp [apply, map]

theorem andThen_eq_fine_iff {x : Checked α} {f : α → Checked β} {b : β} :
    x.andThen f = fine b ↔ ∃ a, x = fine a ∧ f a = fine b := by
  cases x <;> simp [andThen]

end Checked

end JavaScaffold
