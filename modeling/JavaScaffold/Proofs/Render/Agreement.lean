import JavaScaffold.Proofs.Render.Shown
import JavaScaffold.Proofs.TypeRef.Assembled

/-!
# Units that agree on the references of a declaration

How a declaration is written depends on the imports of its unit, because a reference is
short or qualified according to them.  It depends on nothing but the nodes of the references
that `TypeDecl.referencedTypes` collects: two units of the same declaration that agree on
whether these nodes are imported write it in the same way, whatever else they import.

## Main Definitions

* `Scope.WriteAlike` — two scopes in which some references are written alike

## Main Statements

* `TypeRef.display_congr` — a reference depends on its own nodes
* `Field.lines_congr`, `Method.firstLine_congr`, `Outline.header_congr` — a line depends on
  references that are collected
* `TypeDecl.lines_congr` — a declaration depends on what is collected from it
* `CompilationUnit.render_congr` — the text of a unit behind what is above its declaration

## Design Notes

The collector reports more than what is written: it does not ask for the kind of a
declaration or of a method.  One direction is enough here, that whatever is written is also
reported, and for this no rule about kinds is needed.
-/

namespace JavaScaffold

variable {s s' : Option Scope} {inInterface : Bool}

/-! ### References -/

/-- Two scopes **write some references alike**. -/
def Scope.WriteAlike (s s' : Option Scope) (ts : List TypeRef) : Prop :=
  ∀ t ∈ ts, t.display s = t.display s'

open Scope

theorem Site.typeNames_congr {ts : List TypeRef} (alike : WriteAlike s s' ts) :
    typeNames ⟨s, inInterface⟩ ts = typeNames ⟨s', inInterface⟩ ts :=
  List.map_congr_left alike

namespace TypeRef

variable {scope scope' : Scope}

/-- Two scopes of one package write a node alike if they agree on whether it is imported. -/
theorem displayBase_congr (package : scope.package = scope'.package) {n : TypeNode}
    (imported : scope.isImported n = scope'.isImported n) :
    displayBase (some scope) n = displayBase (some scope') n := by
  have sees : scope.seesShort n = scope'.seesShort n := by
    rw [seesShort, seesShort, package, imported]
  rw [displayBase, displayBase, sees]

/-- **A reference depends on its own nodes.** -/
theorem display_congr (package : scope.package = scope'.package) {t : TypeRef}
    (imported : ∀ n ∈ t.nodes, scope.isImported n.toTypeNode = scope'.isImported n.toTypeNode) :
    t.display (some scope) = t.display (some scope') :=
  (isAssembled_display (some scope)).congr (isAssembled_display (some scope')) fun n member =>
    displayBase_congr package (imported n member)

end TypeRef

/-! ### Members -/

theorem TypeParam.clause_congr {ps : List TypeParam}
    (alike : WriteAlike s s' (ps.flatMap TypeParam.bounds)) :
    clause ⟨s, inInterface⟩ ps = clause ⟨s', inInterface⟩ ps := by
  have texts : ps.map (text ⟨s, inInterface⟩) = ps.map (text ⟨s', inInterface⟩) := by
    refine List.map_congr_left fun p member => ?_
    have bounds : WriteAlike s s' p.bounds := fun t bound =>
      alike t (List.mem_flatMap.mpr ⟨p, member, bound⟩)
    rw [text, text, Site.typeNames_congr bounds]
  rw [clause, clause, texts]

theorem Param.clause_congr {ps : List Param} (alike : WriteAlike s s' (ps.map Param.type)) :
    clause ⟨s, inInterface⟩ ps = clause ⟨s', inInterface⟩ ps := by
  have texts : ps.map (text ⟨s, inInterface⟩) = ps.map (text ⟨s', inInterface⟩) := by
    refine List.map_congr_left fun p member => ?_
    rw [text, text, alike p.type (List.mem_map_of_mem member)]
  rw [clause, clause, texts]

theorem Field.lines_congr {f : Field} (alike : f.type.display s = f.type.display s')
    (level : Nat) : f.lines ⟨s, inInterface⟩ level = f.lines ⟨s', inInterface⟩ level := by
  rw [lines, lines, text, text, alike]

namespace Method

variable {m : Method}

theorem resultText_congr (alike : WriteAlike s s' m.returnType.toList) :
    m.resultText ⟨s, inInterface⟩ = m.resultText ⟨s', inInterface⟩ := by
  rw [resultText, resultText]
  cases given : m.returnType with
  | none => rfl
  | some t =>
      rw [given] at alike
      dsimp only
      rw [alike t (Option.mem_toList.mpr rfl)]

/-- **A first line** depends on references of its method. -/
theorem firstLine_congr (alike : WriteAlike s s' (Outline.typesOfMethod m)) :
    m.firstLine ⟨s, inInterface⟩ = m.firstLine ⟨s', inInterface⟩ := by
  simp only [WriteAlike, Outline.typesOfMethod, List.forall_mem_append] at alike
  obtain ⟨⟨⟨bounds, result⟩, params⟩, exceptions⟩ := alike
  have typeParams : m.typeParamsText ⟨s, inInterface⟩ = m.typeParamsText ⟨s', inInterface⟩ := by
    rw [typeParamsText, typeParamsText, TypeParam.clause_congr bounds]
  have throws : m.throwsText ⟨s, inInterface⟩ = m.throwsText ⟨s', inInterface⟩ := by
    rw [throwsText, throwsText, Site.typeNames_congr exceptions]
  -- The modifiers do not depend on the scope at all.
  have whole : m.signature ⟨s, inInterface⟩ = m.signature ⟨s', inInterface⟩ := by
    rw [signature, signature, typeParams, resultText_congr result, Param.clause_congr params,
      throws]
    rfl
  rw [firstLine, firstLine, whole]

theorem lines_congr (alike : WriteAlike s s' (Outline.typesOfMethod m)) (level : Nat) :
    m.lines ⟨s, inInterface⟩ level = m.lines ⟨s', inInterface⟩ level := by
  rw [lines, lines, firstLine_congr alike]

end Method

/-! ### Declarations -/

namespace Outline

variable {d : Outline}

/-- **A header** depends on references of its declaration. -/
theorem header_congr (alike : WriteAlike s s' d.referencedTypes) :
    d.header ⟨s, inInterface⟩ = d.header ⟨s', inInterface⟩ := by
  simp only [WriteAlike, referencedTypes, List.forall_mem_append] at alike
  obtain ⟨⟨⟨⟨⟨bounds, superClass⟩, interfaces⟩, -⟩, components⟩, -⟩ := alike
  rw [header, header, TypeParam.clause_congr bounds, Param.clause_congr components,
    Site.typeNames_congr interfaces]
  cases given : d.superClass with
  | none => cases d.kind <;> rfl
  | some t =>
      have shown : t.display s = t.display s' := superClass t (by simp [given])
      cases d.kind with
      | ofClass =>
          dsimp only
          rw [shown]
      | ofInterface => rfl
      | ofEnum => rfl
      | ofRecord => rfl

theorem items_congr (alike : WriteAlike s s' d.referencedTypes) (level : Nat) (hasNested : Bool) :
    d.items ⟨s, inInterface⟩ level hasNested = d.items ⟨s', inInterface⟩ level hasNested := by
  simp only [WriteAlike, referencedTypes, List.forall_mem_append, List.forall_mem_map,
    List.forall_mem_flatMap] at alike
  obtain ⟨⟨⟨-, fields⟩, -⟩, methods⟩ := alike
  have fieldLines : d.fields.map (Field.lines ⟨s, d.kind == .ofInterface⟩ level) =
      d.fields.map (Field.lines ⟨s', d.kind == .ofInterface⟩ level) :=
    List.map_congr_left fun f member => Field.lines_congr (fields f member) level
  have methodLines : d.methods.map (Method.lines ⟨s, d.kind == .ofInterface⟩ level) =
      d.methods.map (Method.lines ⟨s', d.kind == .ofInterface⟩ level) :=
    List.map_congr_left fun m member => Method.lines_congr (methods m member) level
  simp only [items, fieldLines, methodLines]

end Outline

/-- **A declaration depends on what is collected from it**, nested declarations included. -/
theorem TypeDecl.lines_congr {d : TypeDecl} (alike : WriteAlike s s' d.referencedTypes)
    (level : Nat) : d.lines ⟨s, inInterface⟩ level = d.lines ⟨s', inInterface⟩ level := by
  induction d using inductionOn generalizing inInterface level with
  | step d ih =>
      rw [referencedTypes_eq] at alike
      obtain ⟨own, nested⟩ := List.forall_mem_append.mp alike
      rw [List.forall_mem_flatMap] at nested
      have inside : (inOrder d.nested).map (lines ⟨s, false⟩ (level + 1)) =
          (inOrder d.nested).map (lines ⟨s', false⟩ (level + 1)) := by
        refine List.map_congr_left fun e found => ?_
        have member := (inOrder_perm d.nested).mem_iff.mp found
        exact ih e member (nested e member) (level + 1)
      rw [lines_eq, lines_eq, inside, Outline.items_congr own, Outline.frame, Outline.frame,
        Outline.header_congr own]

/-! ### Units -/

/-- **What is collected is enough.**  Two units of the same declaration have the same text
behind what stands above the declaration, if they agree on whether the nodes of the
collected references are imported.  All that they import apart from that does not matter. -/
theorem CompilationUnit.render_congr {u v : CompilationUnit} (same : u.decl = v.decl)
    (agree : ∀ t ∈ u.decl.referencedTypes, ∀ n ∈ t.nodes, u.isImported n = v.isImported n)
    (indent : Indent) :
    ∃ text, u.render indent = CodeBuilder.textOf indent u.writeHeader ++ text ∧
      v.render indent = CodeBuilder.textOf indent v.writeHeader ++ text := by
  have package : u.scope.package = v.scope.package :=
    congrArg (fun d : TypeDecl => d.type.package) same
  have alike : WriteAlike (some u.scope) (some v.scope) u.decl.referencedTypes :=
    fun t member => TypeRef.display_congr package (agree t member)
  refine ⟨_, u.render_eq indent, ?_⟩
  rw [v.render_eq indent, ← same, TypeDecl.lines_congr alike]

/-- A class with a field of a generic type and a nested class with one of a plain type. -/
def TypeDecl.calendar : TypeDecl :=
  { type := TypeRef.named "com.foo.Calendar"
    fields := [{ name := "days"
                 type := (TypeRef.named "java.util.List").withArg (TypeRef.named "java.time.Day") }]
    nested := [{ type := (TypeRef.named "com.foo.Calendar").nested "Entry"
                 fields := [{ name := "note", type := TypeRef.named "com.bar.Note" }] }] }

/-- A unit of that class, with the import of the list and of the classes in `more`. -/
def CompilationUnit.calendar (more : List String) : CompilationUnit :=
  { decl := TypeDecl.calendar
    imports := ("java.util.List" :: more).map fun path => ⟨path, TypeRef.named path⟩ }

/-- The imports differ, but not in a class that the declaration refers to. -/
theorem CompilationUnit.render_congr_calendar :
    (calendar []).importPaths ≠ (calendar ["java.util.Map"]).importPaths ∧
      ∃ text, (calendar []).render .tab =
          CodeBuilder.textOf .tab (calendar []).writeHeader ++ text ∧
        (calendar ["java.util.Map"]).render .tab =
          CodeBuilder.textOf .tab (calendar ["java.util.Map"]).writeHeader ++ text := by
  have agree : ∀ t ∈ (calendar []).decl.referencedTypes, ∀ n ∈ t.nodes,
      (calendar []).isImported n = (calendar ["java.util.Map"]).isImported n := by
    decide
  exact ⟨by decide, render_congr (u := calendar []) (v := calendar ["java.util.Map"]) rfl agree _⟩

end JavaScaffold
