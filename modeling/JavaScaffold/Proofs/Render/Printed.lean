import JavaScaffold.Proofs.Render.Shown
import JavaScaffold.Proofs.Text.Occurrence

/-!
# References in a line

A reference is written in a line together with all of its nodes: the arguments of a node
stand in the text of the node.  Which references a header or a signature has depends on the
kind of the declaration and of the method, since only a class has a super class, only a
record has components, and a constructor has no result.

## Main Definitions

* `Outline.headerTypes`, `Method.signatureTypes` — the references in a header and in a
  signature
* `Outline.typedLines` — the lines of a declaration that have references in them

## Main Statements

* `TypeRef.occurs_display` — a reference is written with all of its nodes
* `Outline.occurs_of_mem_typedLines` — the references of a line stand in the line
* `TypeDecl.hasLine_of_mem_typedLines` — the lines with references are lines of the
  declaration
-/

namespace JavaScaffold

open Text

/-! ### References -/

namespace TypeRef

theorem occurs_assemble {args : List String} {text : String} (member : text ∈ args)
    (base brackets : String) : Occurs text (assemble base args brackets) := by
  have given : args.isEmpty = false := List.isEmpty_eq_false_iff.mpr (List.ne_nil_of_mem member)
  rw [assemble, given, if_neg Bool.false_ne_true]
  exact (((occurs_intercalate member ", ").atEnd _).inFront _).inFront _

/-- **A reference is written with all of its nodes.** -/
theorem occurs_display (scope : Option Scope) {t n : TypeRef} (node : n ∈ t.nodes) :
    Occurs (n.display scope) (t.display scope) := by
  induction t using inductionOn with
  | node t ih =>
      rw [nodes_eq, List.mem_append, List.mem_flatMap, List.mem_singleton] at node
      rcases node with ⟨arg, member, inside⟩ | rfl
      · rw [t.display_eq scope]
        exact (ih arg member inside).trans (occurs_assemble (List.mem_map_of_mem member) _ _)
      · exact .refl _

/-- The texts of some references between separators. -/
theorem occurs_typeNames {site : Site} {ts : List TypeRef} {t : TypeRef} (member : t ∈ ts)
    (separator : String) :
    Occurs (t.display site.scope) (separator.intercalate (site.typeNames ts)) :=
  occurs_intercalate (List.mem_map_of_mem member) separator

end TypeRef

/-! ### Members -/

variable {site : Site} {t : TypeRef}

theorem TypeParam.occurs_clause {ps : List TypeParam} (member : t ∈ ps.flatMap TypeParam.bounds) :
    Occurs (t.display site.scope) (TypeParam.clause site ps) := by
  obtain ⟨p, planned, bound⟩ := List.mem_flatMap.mp member
  have bounded : p.bounds.isEmpty = false :=
    List.isEmpty_eq_false_iff.mpr (List.ne_nil_of_mem bound)
  have given : ps.isEmpty = false := List.isEmpty_eq_false_iff.mpr (List.ne_nil_of_mem planned)
  have inText : Occurs (t.display site.scope) (p.text site) := by
    rw [text, bounded, if_neg Bool.false_ne_true]
    exact (TypeRef.occurs_typeNames bound " & ").atEnd _
  rw [clause, given, if_neg Bool.false_ne_true]
  have inClause := occurs_intercalate (List.mem_map_of_mem (f := TypeParam.text site) planned) ", "
  exact ((inText.trans inClause).atEnd _).inFront _

theorem Param.occurs_clause {ps : List Param} (member : t ∈ ps.map Param.type) :
    Occurs (t.display site.scope) (Param.clause site ps) := by
  obtain ⟨p, given, rfl⟩ := List.mem_map.mp member
  have inText : Occurs (p.type.display site.scope) (p.text site) := by
    rw [text]
    exact ((((Occurs.refl _).atEnd _).inFront _).inFront _).inFront _
  have inClause := occurs_intercalate (List.mem_map_of_mem (f := Param.text site) given) ", "
  exact ((inText.trans inClause).atEnd _).inFront _

theorem Field.occurs_text (site : Site) (f : Field) :
    Occurs (f.type.display site.scope) (f.text site) := by
  rw [text]
  exact (((((Occurs.refl _).atEnd _).inFront _).inFront _).inFront _).inFront _

namespace Method

/-- The references that are written in the first line of a method.  A constructor has no
result. -/
def signatureTypes (m : Method) : List TypeRef :=
  m.typeParams.flatMap TypeParam.bounds ++
    (if m.isConstructor then [] else m.returnType.toList) ++ m.params.map Param.type ++
    m.exceptions

theorem occurs_typeParamsText {m : Method} (member : t ∈ m.typeParams.flatMap TypeParam.bounds) :
    Occurs (t.display site.scope) (m.typeParamsText site) := by
  obtain ⟨p, planned, -⟩ := List.mem_flatMap.mp member
  have given : m.typeParams.isEmpty = false :=
    List.isEmpty_eq_false_iff.mpr (List.ne_nil_of_mem planned)
  rw [typeParamsText, given, if_neg Bool.false_ne_true]
  exact (TypeParam.occurs_clause member).inFront _

theorem occurs_resultText {m : Method}
    (member : t ∈ if m.isConstructor then [] else m.returnType.toList) :
    Occurs (t.display site.scope) (m.resultText site) := by
  rw [resultText]
  split at member
  · cases member
  · next ordinary =>
      rw [if_neg ordinary]
      rw [Option.mem_toList] at member
      rw [Option.mem_def.mp member]
      exact (Occurs.refl _).inFront _

theorem occurs_throwsText {m : Method} (member : t ∈ m.exceptions) :
    Occurs (t.display site.scope) (m.throwsText site) := by
  have given : m.exceptions.isEmpty = false :=
    List.isEmpty_eq_false_iff.mpr (List.ne_nil_of_mem member)
  rw [throwsText, given, if_neg Bool.false_ne_true]
  exact (TypeRef.occurs_typeNames member ", ").atEnd _

/-- The references of a signature stand in the first line of the method. -/
theorem occurs_firstLine (site : Site) {m : Method} (member : t ∈ m.signatureTypes) :
    Occurs (t.display site.scope) (m.firstLine site) := by
  have inSignature : Occurs (t.display site.scope) (m.signature site) := by
    simp only [signatureTypes, List.mem_append] at member
    rw [signature]
    rcases member with ((bound | result) | param) | exception
    · exact (((((occurs_typeParamsText bound).atEnd _).inFront _).inFront _).inFront _).inFront _
    · exact ((((occurs_resultText result).atEnd _).inFront _).inFront _).inFront _
    · exact ((Param.occurs_clause param).atEnd _).inFront _
    · exact (occurs_throwsText exception).atEnd _
  rw [firstLine]
  split
  · exact inSignature.inFront _
  · exact inSignature.inFront _

end Method

/-! ### Declarations -/

/-- A line and the references that are written in it. -/
structure TypedLine where
  text : String
  types : List TypeRef

namespace Outline

variable {scope : Option Scope} {d : Outline} {l : TypedLine}

/-- The references that are written in the header of a declaration.  Only a record has
components there, and only a class has a super class. -/
def headerTypes (d : Outline) : List TypeRef :=
  d.typeParams.flatMap TypeParam.bounds ++
    (if d.kind = .ofRecord then d.components.map Param.type else []) ++
    (if d.kind = .ofClass then d.superClass.toList else []) ++ d.interfaces

/-- **The lines of a declaration that have references in them**: the header, the fields and
the first lines of the methods. -/
def typedLines (scope : Option Scope) (d : Outline) : List TypedLine :=
  let members : Site := ⟨scope, d.kind == .ofInterface⟩
  ⟨d.header ⟨scope, false⟩, d.headerTypes⟩ ::
    (d.fields.map fun f => ⟨f.text members, [f.type]⟩) ++
    d.methods.map fun m => ⟨m.firstLine members, m.signatureTypes⟩

theorem occurs_header (site : Site) (member : t ∈ d.headerTypes) :
    Occurs (t.display site.scope) (d.header site) := by
  simp only [headerTypes, List.mem_append] at member
  rw [header]
  rcases member with ((bound | component) | superClass) | interface
  · exact (((((TypeParam.occurs_clause bound).atEnd _).inFront _).inFront _).inFront _).inFront _
  · split at component
    · next isRecord =>
        rw [if_pos (beq_iff_eq.mpr isRecord)]
        exact ((((Param.occurs_clause component).atEnd _).inFront _).inFront _).inFront _
    · cases component
  · split at superClass
    · next isClass =>
        rw [isClass, Option.mem_def.mp (Option.mem_toList.mp superClass)]
        exact (((((Occurs.refl _).atEnd _).atEnd _).inFront _).inFront _)
    · cases superClass
  · have given : d.interfaces.isEmpty = false :=
      List.isEmpty_eq_false_iff.mpr (List.ne_nil_of_mem interface)
    rw [given, if_neg Bool.false_ne_true]
    exact (((TypeRef.occurs_typeNames interface ", ").atEnd _).atEnd _).inFront _

/-- **The references of a line** stand in the line. -/
theorem occurs_of_mem_typedLines (line : l ∈ d.typedLines scope) (member : t ∈ l.types) :
    Occurs (t.display scope) l.text := by
  simp only [typedLines, List.mem_append, List.mem_cons, List.mem_map] at line
  rcases line with (rfl | ⟨f, -, rfl⟩) | ⟨m, -, rfl⟩
  · exact occurs_header ⟨scope, false⟩ member
  · rw [List.mem_singleton.mp member]
    exact f.occurs_text ⟨scope, d.kind == .ofInterface⟩
  · exact Method.occurs_firstLine ⟨scope, d.kind == .ofInterface⟩ member

end Outline

/-- **The lines with references** are lines of the declaration. -/
theorem TypeDecl.hasLine_of_mem_typedLines {scope : Option Scope} {d : TypeDecl} {l : TypedLine}
    (line : l ∈ d.typedLines scope) : d.HasLine scope l.text := by
  simp only [Outline.typedLines, List.mem_append, List.mem_cons, List.mem_map] at line
  rcases line with (rfl | ⟨f, member, rfl⟩) | ⟨m, member, rfl⟩
  · exact hasLine_header scope d
  · exact hasLine_field member
  · exact hasLine_method member

end JavaScaffold
