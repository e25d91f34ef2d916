import JavaScaffold.Proofs.Manifest.Passed
import JavaScaffold.Proofs.Render.Shown

/-!
# The methods of an accepted manifest

A method is written as a mere signature when it is declared abstract or native, and also
when it has no lines.  The checks of a manifest keep the first case from hiding lines, and
they keep default methods out of classes.  Nothing else is checked about the modifiers.

## Main Definitions

* `Method.IsChecked` — what the checks of a manifest promise about a method
* `Method.IsConsistent` — what that means for the first line of the method

## Main Statements

* `UnitPlan.Stands.isChecked` — the methods of a unit that has passed
* `ManifestPlan.isConsistent_of_accept` — the methods in the files of an accepted plan
* `Manifest.parse_methods_consistent` — the methods in the files of a manifest
* `Manifest.parse_methods_inconsistent` — what is not checked about methods without lines
-/

namespace JavaScaffold

variable {site : PlanSite}

/-- **What the checks promise** about a method in a declaration of the kind `kind`. -/
structure Method.IsChecked (kind : DeclKind) (m : Method) : Prop where
  bodiless : m.isAbstract = true ∨ m.isNative = true → m.body = []
  default : m.isDefault = true → kind = .ofInterface

/-- **The first line of a method is consistent** with its modifiers and with its lines. -/
structure Method.IsConsistent (site : Site) (m : Method) : Prop where
  /-- The signature is the keywords of the modifiers with the declarator behind them. -/
  keywords : m.signature site =
    String.join ((m.modifiers site).map Modifier.keyword) ++ m.declarator site
  /-- A method or constructor with lines has a body in braces, and is not abstract. -/
  brace : m.body ≠ [] →
    m.firstLine site = m.signature site ++ " \x7b" ∧ .ofAbstract ∉ m.modifiers site
  /-- A method without lines is a mere signature. -/
  signature : m.isConstructor = false → m.body = [] → m.firstLine site = m.signature site ++ ";"
  /-- What is abstract is neither native nor default, and stands in no interface. -/
  abstract : .ofAbstract ∈ m.modifiers site →
    .ofNative ∉ m.modifiers site ∧ .ofDefault ∉ m.modifiers site ∧ site.inInterface = false
  /-- A mere signature has no lines; it is native or abstract, or stands in an interface. -/
  semicolon : m.firstLine site = m.signature site ++ ";" → m.body = [] ∧
    (.ofNative ∈ m.modifiers site ∨ .ofAbstract ∈ m.modifiers site ∨ site.inInterface = true)

/-! ### Checked methods -/

/-- A planned method that has passed. -/
theorem MethodPlan.Yields.isChecked {kind : DeclKind} {declared : String} {p : MethodPlan}
    {m : Method} (yields : p.Yields declared m)
    (passed : ∀ check ∈ p.checks kind declared, site.problem? check = none) :
    m.IsChecked kind := by
  have modifiers : ∀ check ∈ p.modifierChecks kind (p.chosenName declared),
      site.problem? check = none := fun check member =>
    passed check (List.mem_append_right _ (List.mem_append_left _ member))
  have bodiless := PlanSite.problem?_rule_eq_none_iff.mp (modifiers _ List.mem_cons_self)
  have default := PlanSite.problem?_rule_eq_none_iff.mp
    (modifiers _ (List.mem_cons_of_mem _ List.mem_cons_self))
  constructor
  · intro either
    rw [yields.isAbstract, yields.isNative, ← Bool.or_eq_true] at either
    rw [either, Bool.not_true, Bool.false_or] at bodiless
    rw [yields.body]
    exact List.isEmpty_iff.mp bodiless
  · intro isDefault
    rw [yields.isDefault] at isDefault
    rw [isDefault, Bool.not_true, Bool.false_or] at default
    exact of_decide_eq_true default

/-- An accessor is neither abstract nor native nor default. -/
theorem Field.isChecked_of_mem_accessors {f : Field} {m : Method} (made : m ∈ f.accessors)
    (kind : DeclKind) : m.IsChecked kind := by
  rcases eq_of_mem_accessors made with rfl | rfl
  · exact ⟨by simp [getter], by simp [getter]⟩
  · exact ⟨by simp [setter], by simp [setter]⟩

/-- **The methods of a unit that has passed** are checked. -/
theorem UnitPlan.Stands.isChecked {type : TypeRef} {u : UnitPlan} {d : TypeDecl}
    (stands : u.Stands type site d) {m : Method} (member : m ∈ d.methods) :
    m.IsChecked d.kind := by
  rcases stands.planned_or_accessor member with ⟨p, yields, passed⟩ | ⟨f, -, made⟩
  · rw [stands.outline.kind]
    exact yields.isChecked passed
  · exact f.isChecked_of_mem_accessors made d.kind

/-! ### Consistent methods -/

/-- A checked method is a mere signature when it has no lines. -/
theorem Method.IsChecked.isBodyless_iff {kind : DeclKind} {m : Method}
    (checked : m.IsChecked kind) : m.isBodyless = true ↔ m.body = [] := by
  rw [isBodyless, Bool.or_eq_true, Bool.or_eq_true, List.isEmpty_iff]
  constructor
  · rintro ((native | abstract) | none)
    · exact checked.bodiless (.inr native)
    · exact checked.bodiless (.inl abstract)
    · exact none
  · exact .inr

/-- **The first line of a checked method** is consistent where the method is written. -/
theorem Method.IsChecked.isConsistent {kind : DeclKind} {m : Method} (checked : m.IsChecked kind)
    (scope : Option Scope) : m.IsConsistent ⟨scope, kind == .ofInterface⟩ := by
  refine ⟨m.signature_eq _, fun lines => ?_, fun _ none => ?_, fun shown => ?_, fun ends => ?_⟩
  · have complete : m.isBodyless = false := by
      rw [← Bool.not_eq_true, checked.isBodyless_iff]
      exact lines
    refine ⟨firstLine_eq_brace_iff.mpr complete, fun shown => ?_⟩
    obtain ⟨bodyless, -, -⟩ := printsAbstract_iff.mp (ofAbstract_mem_modifiers_iff.mp shown)
    exact Bool.false_ne_true (complete.symm.trans bodyless)
  · exact firstLine_eq_semicolon_iff.mpr (checked.isBodyless_iff.mpr none)
  · obtain ⟨-, notNative, outside⟩ := printsAbstract_iff.mp (ofAbstract_mem_modifiers_iff.mp shown)
    rw [ofNative_mem_modifiers_iff, ofDefault_mem_modifiers_iff]
    refine ⟨Bool.eq_false_iff.mp notNative, fun isDefault => ?_, outside⟩
    exact beq_eq_false_iff_ne.mp outside (checked.default isDefault)
  · have bodyless := firstLine_eq_semicolon_iff.mp ends
    refine ⟨checked.isBodyless_iff.mp bodyless, ?_⟩
    rw [ofNative_mem_modifiers_iff, ofAbstract_mem_modifiers_iff, printsAbstract_iff]
    -- What is neither native nor in an interface is written as abstract.
    cases native : m.isNative with
    | true => exact .inl rfl
    | false =>
        cases inside : kind == .ofInterface with
        | true => exact .inr (.inr rfl)
        | false => exact .inr (.inl ⟨bodyless, rfl, rfl⟩)

/-! ### Manifests -/

/-- **The methods of an accepted manifest**, at any depth, are consistent where they are
written. -/
theorem ManifestPlan.isConsistent_of_accept {m : ManifestPlan} {manifest : Manifest}
    (accepted : m.accept site = .ok manifest) {u : CompilationUnit} (found : u ∈ manifest.units)
    {d : TypeDecl} (held : d = u.decl ∨ u.decl.Encloses d) {method : Method}
    (member : method ∈ d.methods) :
    method.IsConsistent ⟨some u.scope, d.kind == .ofInterface⟩ := by
  obtain ⟨p, -, t, -, stands⟩ := exists_mem_zip (stands_of_accept accepted) found
  obtain ⟨v, type, inner, -, passed⟩ := stands.exists_within held
  exact (passed.isChecked member).isConsistent _

namespace Manifest

/-- **The methods in the files of a manifest.**  Every method of an accepted manifest, at any
depth, is shown in the file of its unit with its first line, and this line is consistent
with the modifiers and the lines of the method. -/
theorem parse_methods_consistent (source file : String) (manifest : Manifest)
    (parsed : Manifest.parse source file = .ok manifest) :
    ∀ u ∈ manifest.units, ∀ d, (d = u.decl ∨ u.decl.Encloses d) → ∀ m ∈ d.methods,
      m.IsConsistent ⟨some u.scope, d.kind == .ofInterface⟩ ∧
      ∀ indent, ∃ front level back, u.render indent = front ++ CodeLine.written indent
        ⟨level, m.firstLine ⟨some u.scope, d.kind == .ofInterface⟩⟩ ++ back := by
  intro u found d held m member
  obtain ⟨plan, -, accepted⟩ := parse_eq_ok_iff.mp parsed
  exact ⟨ManifestPlan.isConsistent_of_accept accepted found held member,
    fun indent => u.render_shows indent held member⟩

/-- A class with a constructor and an interface in it. -/
def orderly : String :=
  "[[unit]]\ntype = \"A\"\nmethod = [\x7b constructor = true, body = [\"run();\"] \x7d]\n" ++
    "nested = [\x7b type = \"B\", kind = \"interface\", method = [\x7b name = \"f\" \x7d] \x7d]\n"

theorem parse_methods_consistent_orderly :
    ∃ manifest, Manifest.parse orderly "jgen.toml" = .ok manifest ∧
      ∀ u ∈ manifest.units, ∀ d, (d = u.decl ∨ u.decl.Encloses d) → ∀ m ∈ d.methods,
        m.IsConsistent ⟨some u.scope, d.kind == .ofInterface⟩ ∧
        ∀ indent, ∃ front level back, u.render indent = front ++ CodeLine.written indent
          ⟨level, m.firstLine ⟨some u.scope, d.kind == .ofInterface⟩⟩ ++ back := by
  obtain ⟨manifest, parsed, -⟩ :
      ∃ manifest, Manifest.parse orderly "jgen.toml" = .ok manifest ∧ manifest.units.length = 1 :=
    exists_eq_ok (by decide +kernel)
  exact ⟨manifest, parsed, parse_methods_consistent _ _ manifest parsed⟩

/-- A class with a constructor and a private method, and an interface in it with a default
method; none of the three has lines. -/
def hollow : String :=
  "[[unit]]\ntype = \"A\"\nmethod = [\x7b constructor = true \x7d, \x7b name = \"f\", " ++
    "visibility = \"private\", static = true, final = true, synchronized = true \x7d]\n" ++
    "nested = [\x7b type = \"B\", kind = \"interface\", " ++
    "method = [\x7b name = \"g\", default = true \x7d] \x7d]\n"

/-- **Without lines, nothing else is checked.**  A constructor can be abstract without a
body, a method can be abstract as well as private, static, final and synchronized, and a
default method can be a mere signature. -/
theorem parse_methods_inconsistent :
    ∃ manifest, Manifest.parse hollow "jgen.toml" = .ok manifest ∧ ∃ u ∈ manifest.units,
      (∃ m ∈ u.decl.methods, m.isConstructor = true ∧
        Modifier.ofAbstract ∈ m.modifiers ⟨some u.scope, false⟩ ∧
        m.firstLine ⟨some u.scope, false⟩ = m.signature ⟨some u.scope, false⟩ ++ ";") ∧
      (∃ m ∈ u.decl.methods, .ofAbstract ∈ m.modifiers ⟨some u.scope, false⟩ ∧
        ∀ k ∈ [Modifier.ofPrivate, .ofStatic, .ofFinal, .ofSynchronized],
          k ∈ m.modifiers ⟨some u.scope, false⟩) ∧
      ∃ d ∈ u.decl.nested, d.kind = .ofInterface ∧ ∃ m ∈ d.methods,
        Modifier.ofDefault ∈ m.modifiers ⟨some u.scope, true⟩ ∧
        m.firstLine ⟨some u.scope, true⟩ = m.signature ⟨some u.scope, true⟩ ++ ";" :=
  exists_eq_ok (by decide +kernel)

end Manifest

end JavaScaffold
