import JavaScaffold.Render.Member

/-!
# The first line of a method

A method is written with its modifiers in front, in a fixed order.  Its first line ends
in a semicolon, or in an opening brace with the body behind it.

## Main Definitions

* `Modifier`, `Method.modifiers` — the modifiers that a method is written with
* `Method.firstLine` — the line with the signature

## Main Statements

* `Method.signature_eq` — the modifiers are what the signature starts with
* `Method.write_eq` — where the first line is written
* `Method.firstLine_eq_semicolon_iff` — which methods are mere signatures
-/

namespace JavaScaffold

/-- A modifier of a method. -/
inductive Modifier
  | ofPublic
  | ofProtected
  | ofPrivate
  | ofDefault
  | ofStatic
  | ofFinal
  | ofAbstract
  | ofSynchronized
  | ofNative
  deriving DecidableEq

/-- The keyword of a modifier with a blank behind it. -/
def Modifier.keyword : Modifier → String
  | ofPublic => "public "
  | ofProtected => "protected "
  | ofPrivate => "private "
  | ofDefault => "default "
  | ofStatic => "static "
  | ofFinal => "final "
  | ofAbstract => "abstract "
  | ofSynchronized => "synchronized "
  | ofNative => "native "

/-- The modifier of a visibility. -/
def Visibility.modifier? : Visibility → Option Modifier
  | everyone => some .ofPublic
  | subclasses => some .ofProtected
  | declarer => some .ofPrivate
  | package => none

namespace Method

variable {site : Site} {m : Method}

/-- The modifier for the visibility of a method at a site. -/
def visibilityModifier? (site : Site) (m : Method) : Option Modifier :=
  if site.inInterface && m.visibility == .everyone then none else m.visibility.modifier?

/-- The modifiers apart from the visibility, each with its condition. -/
def choices (site : Site) (m : Method) : List (Bool × Modifier) :=
  [(m.isDefault, .ofDefault), (m.isStatic, .ofStatic), (m.isFinal, .ofFinal),
    (m.printsAbstract site, .ofAbstract), (m.isSynchronized, .ofSynchronized),
    (m.isNative, .ofNative)]

/-- **The modifiers that a method is written with** at a site, in their order. -/
def modifiers (site : Site) (m : Method) : List Modifier :=
  (m.visibilityModifier? site).toList ++ ((m.choices site).filter Prod.fst).map Prod.snd

/-- What stands behind the modifiers of a method: its name with all that belongs to it. -/
def declarator (site : Site) (m : Method) : String :=
  m.typeParamsText site ++ m.resultText site ++ m.name ++ Param.clause site m.params ++
    m.throwsText site

/-- **The first line of a method**, with what it ends in. -/
def firstLine (site : Site) (m : Method) : String :=
  if m.isBodyless then m.signature site ++ ";" else m.signature site ++ " \x7b"

/-! ### Modifiers -/

theorem visibilityText_eq (site : Site) (m : Method) :
    m.visibilityText site =
      String.join ((m.visibilityModifier? site).toList.map Modifier.keyword) := by
  unfold visibilityText visibilityModifier?
  split
  · rfl
  · cases m.visibility <;> simp [Visibility.modifier?, Visibility.keyword, Modifier.keyword]

/-- The keywords of some choices are those of the modifiers that are chosen. -/
theorem keywords_map (choices : List (Bool × Modifier)) :
    keywords (choices.map fun c => (c.1, c.2.keyword)) =
      String.join (((choices.filter Prod.fst).map Prod.snd).map Modifier.keyword) := by
  simp only [keywords, List.filter_map, List.map_map, Function.comp_def]

/-- **A signature** is the keywords of the modifiers with the declarator behind them. -/
theorem signature_eq (site : Site) (m : Method) :
    m.signature site =
      String.join ((m.modifiers site).map Modifier.keyword) ++ m.declarator site := by
  have chosen := keywords_map (m.choices site)
  rw [modifiers, List.map_append, String.join_append, ← visibilityText_eq, ← chosen]
  simp only [signature, declarator, choices, List.map_cons, List.map_nil, Modifier.keyword,
    String.append_assoc]

theorem visibilityModifier?_cases {k : Modifier} (shown : m.visibilityModifier? site = some k) :
    k = .ofPublic ∨ k = .ofProtected ∨ k = .ofPrivate := by
  unfold visibilityModifier? at shown
  split at shown
  · cases shown
  · cases visible : m.visibility <;> simp_all [Visibility.modifier?]

/-- A modifier that is no visibility is written when it is chosen. -/
theorem mem_modifiers_iff {k : Modifier}
    (other : k ≠ .ofPublic ∧ k ≠ .ofProtected ∧ k ≠ .ofPrivate) :
    k ∈ m.modifiers site ↔ (true, k) ∈ m.choices site := by
  obtain ⟨notPublic, notProtected, notPrivate⟩ := other
  have noVisibility : k ∉ (m.visibilityModifier? site).toList := by
    intro member
    rcases visibilityModifier?_cases (Option.mem_toList.mp member) with rfl | rfl | rfl
    · exact notPublic rfl
    · exact notProtected rfl
    · exact notPrivate rfl
  simp [modifiers, noVisibility]

theorem ofAbstract_mem_modifiers_iff :
    .ofAbstract ∈ m.modifiers site ↔ m.printsAbstract site = true := by
  rw [mem_modifiers_iff (by decide)]
  simp [choices, eq_comm (a := true)]

theorem ofNative_mem_modifiers_iff : .ofNative ∈ m.modifiers site ↔ m.isNative = true := by
  rw [mem_modifiers_iff (by decide)]
  simp [choices, eq_comm (a := true)]

theorem ofDefault_mem_modifiers_iff : .ofDefault ∈ m.modifiers site ↔ m.isDefault = true := by
  rw [mem_modifiers_iff (by decide)]
  simp [choices, eq_comm (a := true)]

/-- A method is abstract where it is a mere signature outside an interface that is not
native. -/
theorem printsAbstract_iff :
    m.printsAbstract site = true ↔
      m.isBodyless = true ∧ m.isNative = false ∧ site.inInterface = false := by
  simp [printsAbstract, and_assoc]

/-! ### First lines -/

/-- **Mere signatures** are the methods whose first line ends in a semicolon. -/
theorem firstLine_eq_semicolon_iff :
    m.firstLine site = m.signature site ++ ";" ↔ m.isBodyless = true := by
  unfold firstLine
  cases m.isBodyless <;> simp

theorem firstLine_eq_brace_iff :
    m.firstLine site = m.signature site ++ " \x7b" ↔ m.isBodyless = false := by
  unfold firstLine
  cases m.isBodyless <;> simp

/-- **A method is written** with its first line behind the comment and the annotations, and
with its body behind the first line, if it has one. -/
theorem write_eq (site : Site) (m : Method) (b : CodeBuilder) :
    m.write site b =
      let opened := ((b.lines m.doc.lines).lines m.annotations).line (m.firstLine site)
      if m.isBodyless then opened else opened.body m.body := by
  unfold write firstLine
  cases m.isBodyless <;> simp

end Method

end JavaScaffold
