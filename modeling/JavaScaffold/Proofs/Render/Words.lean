import JavaScaffold.Proofs.Nesting
import JavaScaffold.Proofs.Render.Signature
import JavaScaffold.Proofs.Text.OneLine
import JavaScaffold.Render.Decl

/-!
# The words of the code

What is written is put together from keywords and signs and from the words that a
declaration and its members come with: names, and texts that are written as they stand.  So
a line has no line feed unless one of these words has.

## Main Definitions

* `TypeRef.words`, `Field.words`, `Method.words`, `InitBlock.words`, `Outline.words` — names
  and texts
* `AreOneLine` — words without line feeds

## Main Statements

* `TypeRef.isOneLine_display` — references
* `Field.isOneLine_text`, `Method.isOneLine_firstLine`, `Outline.isOneLine_header` — lines
* `DocComment.areOneLine_ofText?` — the lines of a comment that is made of a text

## Design Notes

The lines of a comment are among the words.  A comment made of a text has no line feed in a
line, whatever the text is, since the text is taken apart at its line feeds.
-/

namespace JavaScaffold

open Text

/-! ### Words -/

/-- The names of one node of a reference. -/
def TypeNode.words (n : TypeNode) : List String :=
  n.qualifier.toList ++ [n.name, n.brackets]

/-- The names in a reference, its arguments included. -/
def TypeRef.words (t : TypeRef) : List String :=
  t.nodes.flatMap fun n => n.toTypeNode.words

/-- The names in a type parameter. -/
def TypeParam.words (p : TypeParam) : List String :=
  p.name :: p.bounds.flatMap TypeRef.words

/-- The names and texts in a parameter. -/
def Param.words (p : Param) : List String :=
  p.name :: (p.annotations ++ p.type.words)

/-- **The names and texts in a field.** -/
def Field.words (f : Field) : List String :=
  f.name :: (f.initializer.toList ++ f.doc.lines ++ f.annotations ++ f.type.words)

/-- **The names and texts in a method.** -/
def Method.words (m : Method) : List String :=
  m.name :: (m.doc.lines ++ m.annotations ++ m.body ++ m.typeParams.flatMap TypeParam.words ++
    m.returnType.toList.flatMap TypeRef.words ++ m.params.flatMap Param.words ++
    m.exceptions.flatMap TypeRef.words)

/-- **The texts in an initializer block.** -/
def InitBlock.words (i : InitBlock) : List String :=
  i.doc.lines ++ i.body

/-- **The names and texts in a declaration**, apart from its nested declarations. -/
def Outline.words (d : Outline) : List String :=
  d.type.words ++ d.doc.lines ++ d.annotations ++ d.typeParams.flatMap TypeParam.words ++
    d.superClass.toList.flatMap TypeRef.words ++ d.interfaces.flatMap TypeRef.words ++
    d.constants ++ d.components.flatMap Param.words ++ d.fields.flatMap Field.words ++
    d.initBlocks.flatMap InitBlock.words ++ d.methods.flatMap Method.words

/-- The words `words` are on one line each. -/
def AreOneLine (words : List String) : Prop :=
  ∀ word ∈ words, IsOneLine word

instance (words : List String) : Decidable (AreOneLine words) :=
  inferInstanceAs (Decidable (∀ word ∈ words, _))

namespace AreOneLine

variable {α : Type} {word : String} {words more : List String}

@[simp] theorem cons_iff : AreOneLine (word :: words) ↔ IsOneLine word ∧ AreOneLine words :=
  List.forall_mem_cons

@[simp] theorem append_iff : AreOneLine (words ++ more) ↔ AreOneLine words ∧ AreOneLine more :=
  List.forall_mem_append

@[simp] theorem flatMap_iff {as : List α} {f : α → List String} :
    AreOneLine (as.flatMap f) ↔ ∀ a ∈ as, AreOneLine (f a) :=
  List.forall_mem_flatMap

end AreOneLine

theorem Param.areOneLine_words_iff {p : Param} : AreOneLine p.words ↔
    IsOneLine p.name ∧ AreOneLine p.annotations ∧ AreOneLine p.type.words := by
  simp only [words, AreOneLine.cons_iff, AreOneLine.append_iff]

theorem Field.areOneLine_words_iff {f : Field} : AreOneLine f.words ↔
    IsOneLine f.name ∧ AreOneLine f.initializer.toList ∧ AreOneLine f.doc.lines ∧
      AreOneLine f.annotations ∧ AreOneLine f.type.words := by
  simp only [words, AreOneLine.cons_iff, AreOneLine.append_iff, and_assoc]

theorem Method.areOneLine_words_iff {m : Method} : AreOneLine m.words ↔
    IsOneLine m.name ∧ AreOneLine m.doc.lines ∧ AreOneLine m.annotations ∧ AreOneLine m.body ∧
      AreOneLine (m.typeParams.flatMap TypeParam.words) ∧
      AreOneLine (m.returnType.toList.flatMap TypeRef.words) ∧
      AreOneLine (m.params.flatMap Param.words) ∧
      AreOneLine (m.exceptions.flatMap TypeRef.words) := by
  simp only [words, AreOneLine.cons_iff, AreOneLine.append_iff, and_assoc]

theorem InitBlock.areOneLine_words_iff {i : InitBlock} : AreOneLine i.words ↔
    AreOneLine i.doc.lines ∧ AreOneLine i.body := by
  rw [words, AreOneLine.append_iff]

theorem Outline.areOneLine_words_iff {d : Outline} : AreOneLine d.words ↔
    AreOneLine d.type.words ∧ AreOneLine d.doc.lines ∧ AreOneLine d.annotations ∧
      AreOneLine (d.typeParams.flatMap TypeParam.words) ∧
      AreOneLine (d.superClass.toList.flatMap TypeRef.words) ∧
      AreOneLine (d.interfaces.flatMap TypeRef.words) ∧ AreOneLine d.constants ∧
      AreOneLine (d.components.flatMap Param.words) ∧
      AreOneLine (d.fields.flatMap Field.words) ∧
      AreOneLine (d.initBlocks.flatMap InitBlock.words) ∧
      AreOneLine (d.methods.flatMap Method.words) := by
  simp only [words, AreOneLine.append_iff, and_assoc]

/-! ### References -/

namespace TypeNode

variable {n : TypeNode}

theorem isOneLine_behindWildcard (n : TypeNode) {name : String} (flat : IsOneLine name) :
    IsOneLine (n.behindWildcard name) := by
  unfold behindWildcard
  cases n.wildcard with
  | none => exact flat
  | some w =>
      cases w with
      | unbounded => exact (by decide : IsOneLine "?")
      | upper => exact IsOneLine.append (by decide) flat
      | lower => exact IsOneLine.append (by decide) flat

theorem isOneLine_qualifiedName (flat : AreOneLine n.words) : IsOneLine n.qualifiedName := by
  obtain ⟨qualifier, name, -⟩ : AreOneLine n.qualifier.toList ∧ IsOneLine n.name ∧ _ := by
    simpa [words] using flat
  unfold qualifiedName
  split
  · next front given =>
      have flatFront : IsOneLine front := qualifier front (by simp [given])
      exact (flatFront.append (by decide)).append name
  · exact name

theorem isOneLine_displayBase (scope : Option Scope) (flat : AreOneLine n.words) :
    IsOneLine (TypeRef.displayBase scope n) := by
  have short : IsOneLine n.shortBase :=
    n.isOneLine_behindWildcard (flat n.name (by simp [words]))
  have full : IsOneLine n.fullBase := n.isOneLine_behindWildcard (isOneLine_qualifiedName flat)
  unfold TypeRef.displayBase
  split
  · exact short
  · split
    · exact short
    · exact full

end TypeNode

namespace TypeRef

variable {t : TypeRef} {ts : List TypeRef}

theorem words_eq (t : TypeRef) : t.words = t.args.flatMap words ++ t.toTypeNode.words := by
  rw [words, nodes_eq, List.flatMap_append, List.flatMap_assoc, List.flatMap_singleton]
  rfl

/-- **A reference** is written on one line if its names are. -/
theorem isOneLine_display (scope : Option Scope) (flat : AreOneLine t.words) :
    IsOneLine (t.display scope) := by
  induction t using inductionOn with
  | node t ih =>
      rw [words_eq, AreOneLine.append_iff, AreOneLine.flatMap_iff] at flat
      obtain ⟨flatArgs, flatNode⟩ := flat
      have args : ∀ text ∈ t.args.map (display scope), IsOneLine text :=
        List.forall_mem_map.mpr fun a member => ih a member (flatArgs a member)
      have brackets : IsOneLine t.brackets := flatNode t.brackets (by simp [TypeNode.words])
      have base := TypeNode.isOneLine_displayBase scope flatNode
      have between := isOneLine_intercalate (by decide : IsOneLine ", ") args
      rw [display_eq, assemble]
      split
      · exact base.append brackets
      · exact (((base.append (by decide)).append between).append (by decide)).append brackets

theorem isOneLine_typeNames (site : Site) (flat : AreOneLine (ts.flatMap words))
    {separator : String} (flatSeparator : IsOneLine separator) :
    IsOneLine (separator.intercalate (site.typeNames ts)) := by
  rw [AreOneLine.flatMap_iff] at flat
  refine isOneLine_intercalate flatSeparator ?_
  exact List.forall_mem_map.mpr fun t member => isOneLine_display site.scope (flat t member)

end TypeRef

/-! ### Parts of a line -/

theorem isOneLine_keywords {choices : List (Bool × String)}
    (flat : AreOneLine (choices.map Prod.snd)) : IsOneLine (keywords choices) := by
  refine isOneLine_join fun word member => flat word ?_
  obtain ⟨choice, chosen, rfl⟩ := List.mem_map.mp member
  exact List.mem_map_of_mem (List.mem_filter.mp chosen).1

theorem Visibility.isOneLine_keyword (v : Visibility) : IsOneLine v.keyword := by
  cases v <;> decide

/-- A list of texts between two signs, or nothing. -/
theorem isOneLine_list {α : Type} {text : α → String} {words : α → List String} {as : List α}
    (each : ∀ a, AreOneLine (words a) → IsOneLine (text a)) (flat : AreOneLine (as.flatMap words)) :
    IsOneLine (", ".intercalate (as.map text)) := by
  rw [AreOneLine.flatMap_iff] at flat
  refine isOneLine_intercalate (by decide) ?_
  exact List.forall_mem_map.mpr fun a member => each a (flat a member)

theorem TypeParam.isOneLine_text (site : Site) (p : TypeParam) (flat : AreOneLine p.words) :
    IsOneLine (p.text site) := by
  obtain ⟨name, bounds⟩ := AreOneLine.cons_iff.mp flat
  have between := TypeRef.isOneLine_typeNames site bounds (by decide : IsOneLine " & ")
  rw [text]
  split
  · exact name
  · exact (name.append (by decide)).append between

theorem TypeParam.isOneLine_clause (site : Site) {ps : List TypeParam}
    (flat : AreOneLine (ps.flatMap words)) : IsOneLine (clause site ps) := by
  have between := isOneLine_list (isOneLine_text site) flat
  rw [clause]
  split
  · decide
  · exact (IsOneLine.append (by decide) between).append (by decide)

theorem Param.isOneLine_text (site : Site) (p : Param) (flat : AreOneLine p.words) :
    IsOneLine (p.text site) := by
  obtain ⟨name, annotations, type⟩ := areOneLine_words_iff.mp flat
  have front : IsOneLine (String.join (p.annotations.map (· ++ " "))) := by
    refine isOneLine_join (List.forall_mem_map.mpr fun annotation member => ?_)
    exact (annotations annotation member).append (by decide)
  have dots : IsOneLine (if p.isVariadic then "..." else "") := by
    split <;> decide
  have shown := TypeRef.isOneLine_display site.scope type
  exact (((front.append shown).append dots).append (by decide)).append name

theorem Param.isOneLine_clause (site : Site) {ps : List Param}
    (flat : AreOneLine (ps.flatMap words)) : IsOneLine (clause site ps) :=
  have between := isOneLine_list (isOneLine_text site) flat
  (IsOneLine.append (by decide) between).append (by decide)

/-! ### Lines -/

/-- **The line of a field.** -/
theorem Field.isOneLine_text (site : Site) {f : Field} (flat : AreOneLine f.words) :
    IsOneLine (f.text site) := by
  obtain ⟨name, initializer, -, -, type⟩ := areOneLine_words_iff.mp flat
  have modifiers : IsOneLine (keywords [(f.isStatic, "static "), (f.isFinal, "final "),
      (f.isTransient, "transient "), (f.isVolatile, "volatile ")]) :=
    isOneLine_keywords (by decide : AreOneLine ["static ", "final ", "transient ", "volatile "])
  have shown := TypeRef.isOneLine_display site.scope type
  have front := f.visibility.isOneLine_keyword.append modifiers
  refine ((((front.append shown).append (by decide)).append name).append ?_).append (by decide)
  split
  · next expression given =>
      exact IsOneLine.append (by decide) (initializer expression (by simp [given]))
  · decide

namespace Method

variable {m : Method}

theorem isOneLine_visibilityText (site : Site) (m : Method) :
    IsOneLine (m.visibilityText site) := by
  rw [visibilityText]
  split
  · decide
  · exact m.visibility.isOneLine_keyword

theorem isOneLine_typeParamsText (site : Site)
    (flat : AreOneLine (m.typeParams.flatMap TypeParam.words)) :
    IsOneLine (m.typeParamsText site) := by
  rw [typeParamsText]
  split
  · decide
  · exact (TypeParam.isOneLine_clause site flat).append (by decide)

theorem isOneLine_resultText (site : Site)
    (flat : AreOneLine (m.returnType.toList.flatMap TypeRef.words)) :
    IsOneLine (m.resultText site) := by
  rw [resultText]
  split
  · decide
  · split
    · next t given =>
        rw [given] at flat
        have result : AreOneLine t.words := by simpa using flat
        exact (TypeRef.isOneLine_display site.scope result).append (by decide)
    · decide

theorem isOneLine_throwsText (site : Site)
    (flat : AreOneLine (m.exceptions.flatMap TypeRef.words)) : IsOneLine (m.throwsText site) := by
  rw [throwsText]
  split
  · decide
  · exact IsOneLine.append (by decide) (TypeRef.isOneLine_typeNames site flat (by decide))

/-- **The first line of a method.** -/
theorem isOneLine_firstLine (site : Site) (flat : AreOneLine m.words) :
    IsOneLine (m.firstLine site) := by
  obtain ⟨name, -, -, -, typeParams, result, params, exceptions⟩ := areOneLine_words_iff.mp flat
  have modifiers : IsOneLine (keywords [(m.isDefault, "default "), (m.isStatic, "static "),
      (m.isFinal, "final "), (m.printsAbstract site, "abstract "),
      (m.isSynchronized, "synchronized "), (m.isNative, "native ")]) :=
    isOneLine_keywords (by decide : AreOneLine
      ["default ", "static ", "final ", "abstract ", "synchronized ", "native "])
  have opening := ((m.isOneLine_visibilityText site).append modifiers).append
    (isOneLine_typeParamsText site typeParams)
  have named := (opening.append (isOneLine_resultText site result)).append name
  have whole : IsOneLine (m.signature site) :=
    (named.append (Param.isOneLine_clause site params)).append
      (isOneLine_throwsText site exceptions)
  rw [firstLine]
  split
  · exact whole.append (by decide)
  · exact whole.append (by decide)

end Method

/-- **The header of a declaration.** -/
theorem Outline.isOneLine_header (site : Site) {d : Outline} (flat : AreOneLine d.words) :
    IsOneLine (d.header site) := by
  obtain ⟨type, -, -, typeParams, superClass, interfaces, -, components, -⟩ :=
    areOneLine_words_iff.mp flat
  have modifiers : IsOneLine (keywords [(d.isAbstract && d.kind == .ofClass, "abstract "),
      (d.isStatic, "static "),
      (d.isFinal && (d.kind == .ofClass || d.kind == .ofRecord), "final ")]) :=
    isOneLine_keywords (by decide : AreOneLine ["abstract ", "static ", "final "])
  have keyword : IsOneLine d.kind.keyword := by
    cases d.kind <;> decide
  have named : IsOneLine d.declaredName := by
    refine isOneLine_afterLast '.' (type d.type.name ?_)
    rw [TypeRef.words_eq]
    exact List.mem_append_right _ (by simp [TypeNode.words])
  have front := ((d.visibility.isOneLine_keyword.append modifiers).append keyword).append
    (by decide : IsOneLine " ")
  have opening := (front.append named).append (TypeParam.isOneLine_clause site typeParams)
  refine (((opening.append ?_).append ?_).append ?_).append (by decide)
  · split
    · exact Param.isOneLine_clause site components
    · decide
  · split
    · next given =>
        rw [given] at superClass
        have flatSuper := AreOneLine.flatMap_iff.mp superClass _ List.mem_cons_self
        exact IsOneLine.append (by decide) (TypeRef.isOneLine_display site.scope flatSuper)
    · decide
  · have between := TypeRef.isOneLine_typeNames site interfaces (by decide : IsOneLine ", ")
    split
    · decide
    · refine IsOneLine.append ?_ between
      split <;> decide

/-! ### Comments -/

theorem Comment.isOneLine_innerLine {line : String} (flat : IsOneLine line) :
    IsOneLine (innerLine line) := by
  rw [innerLine]
  split
  · decide
  · refine IsOneLine.append (by decide) (isOneLine_ofList.mpr fun found => flat ?_)
    exact trimEnd_subset _ found

/-- **A comment made of a text** has its lines on one line each, whatever the text is. -/
theorem DocComment.areOneLine_ofText? (text : Option String) : AreOneLine (ofText? text).lines := by
  cases text with
  | none => exact List.forall_mem_nil _
  | some text =>
      rw [ofText?, Comment.lines, List.cons_append, AreOneLine.cons_iff, AreOneLine.append_iff]
      refine ⟨by decide, List.forall_mem_map.mpr fun line found => ?_, by decide⟩
      exact Comment.isOneLine_innerLine (isOneLine_of_mem_lines found)

/-- A comment and annotations above a line. -/
theorem AreOneLine.above {doc annotations : List String} {line : String}
    (flatDoc : AreOneLine doc) (flat : AreOneLine annotations) (flatLine : IsOneLine line) :
    AreOneLine (doc ++ annotations ++ [line]) := by
  rw [append_iff, append_iff, cons_iff]
  exact ⟨⟨flatDoc, flat⟩, flatLine, nofun⟩

end JavaScaffold
