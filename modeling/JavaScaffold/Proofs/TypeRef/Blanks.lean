import JavaScaffold.Proofs.TypeRef.Arguments
import JavaScaffold.Proofs.TypeRef.Assembled

/-!
# Blanks around a specification

Blanks around a specification, or around one of the arguments in it, change next to
nothing of what is read: the errors, names, arguments and wildcards are the same.
The one exception is the mark of an array, which asks for a bracket at the very end
of a text and is lost when a blank follows.

## Main Definitions

* `TypeRef.rewriteAt` — a specification with one argument text rewritten
* `TypeRef.modifyAt` — a reference with one argument modified
* `TypeRef.unmarkedBy` — a reference without the mark of an array, if blanks can take
  it away
* `TypeRef.SameButArrays` — references that differ in the marks of arrays only

## Main Statements

* `TypeRef.exists_read_frame` — the arguments of a text are read on their own,
  whatever stands around them
* `TypeRef.read_rewriteAt` — a rewriting that can be seen in what is read from a text
  can be seen at its place in what is read from the whole
* `TypeRef.parse_pad` — blanks around an argument, at any depth
* `TypeRef.parse_pad_array` — a blank behind `byte[]`

## Design Notes

An argument is addressed by a path: the position of an argument in the outermost
argument list, then in the list of that argument, and so on.  The empty path is the
whole specification.  A path that leads nowhere changes neither text nor reference.
-/

namespace JavaScaffold

variable {spec text bound name arguments trailing front back : List Char}
  {segments : List (List Char)}

/-! ### Texts without their blanks -/

/-- The characters of a text that are not blank. -/
def visible (text : List Char) : List Char :=
  text.filter fun c => !Text.isBlank c

theorem visible_append (cs ds : List Char) : visible (cs ++ ds) = visible cs ++ visible ds :=
  List.filter_append _ _

theorem visible_eq_nil_iff : visible text = [] ↔ Text.isBlankText text = true := by
  simp [visible, Text.isBlankText_iff]

theorem visible_pad (blankFront : Text.isBlankText front = true) (text : List Char)
    (blankBack : Text.isBlankText back = true) :
    visible (front ++ text ++ back) = visible text := by
  rw [visible_append, visible_append, visible_eq_nil_iff.mpr blankFront,
    visible_eq_nil_iff.mpr blankBack, List.nil_append, List.append_nil]

theorem isBlankText_congr {other : List Char} (same : visible text = visible other) :
    Text.isBlankText text = Text.isBlankText other := by
  rw [Bool.eq_iff_iff, ← visible_eq_nil_iff, ← visible_eq_nil_iff, same]

theorem visible_intercalate (segments : List (List Char)) :
    visible ([','].intercalate segments) = [','].intercalate (segments.map visible) := by
  induction segments with
  | nil => rfl
  | cons segment rest ih =>
      cases rest with
      | nil => rw [List.intercalate_singleton, List.map_singleton, List.intercalate_singleton]
      | cons next rest =>
          have comma : visible [','] = [','] := by decide
          rw [List.intercalate_cons_cons, visible_append, visible_append, ih, comma, List.map_cons,
            List.map_cons, List.map_cons, List.intercalate_cons_cons]

/-- Blanks do not count for the depth, and are no commas. -/
theorem passes_visible {d e : Int} : Passes d (visible text) e ↔ Passes d text e := by
  induction text generalizing d with
  | nil => exact .rfl
  | cons c cs ih =>
      rw [visible, List.filter_cons]
      split
      · exact and_congr_right fun _ => ih
      · next blank =>
          rw [Bool.not_eq_true, Bool.not_eq_false'] at blank
          have other : ∀ d, Text.isBlank d = false → c ≠ d := by
            rintro d shown rfl
            rw [blank] at shown
            cases shown
          have flat : depthStep c = 0 := by
            rw [depthStep, if_neg (other '<' rfl), if_neg (other '>' rfl)]
          rw [← visible, ih, Passes, flat, Int.add_zero]
          exact ⟨fun passed => ⟨fun cut => other ',' rfl cut.1, passed⟩, And.right⟩

/-! ### Rewriting one segment -/

theorem map_visible_modify {f : List Char → List Char} (keeps : ∀ s, visible (f s) = visible s)
    (segments : List (List Char)) (i : Nat) :
    (segments.modify i f).map visible = segments.map visible := by
  induction segments generalizing i with
  | nil => rw [List.modify_nil]
  | cons segment rest ih =>
      cases i with
      | zero => rw [List.modify_zero_cons, List.map_cons, List.map_cons, keeps]
      | succ i => rw [List.modify_succ_cons, List.map_cons, List.map_cons, ih]

/-- A blank last segment stays blank, and the others stay. -/
theorem dropBlankLast_modify {f : List Char → List Char} (keeps : ∀ s, visible (f s) = visible s)
    (segments : List (List Char)) (i : Nat) :
    dropBlankLast (segments.modify i f) = (dropBlankLast segments).modify i f := by
  induction segments generalizing i with
  | nil => rw [List.modify_nil, dropBlankLast, List.getLast?_nil, List.modify_nil]
  | cons segment rest ih =>
      cases rest with
      | nil =>
          cases i with
          | zero =>
              rw [List.modify_zero_cons, dropBlankLast_singleton, dropBlankLast_singleton,
                isBlankText_congr (keeps segment)]
              split
              · rw [List.modify_nil]
              · rw [List.modify_zero_cons]
          | succ i =>
              rw [List.modify_succ_cons, List.modify_nil, dropBlankLast_singleton]
              split
              · rw [List.modify_nil]
              · rw [List.modify_succ_cons, List.modify_nil]
      | cons next rest =>
          cases i with
          | zero =>
              rw [List.modify_zero_cons, dropBlankLast_cons_cons, dropBlankLast_cons_cons,
                List.modify_zero_cons]
          | succ i =>
              have some : (next :: rest).modify i f ≠ [] :=
                mt List.modify_eq_nil_iff.mp (List.cons_ne_nil next rest)
              obtain ⟨next', rest', parts⟩ := List.exists_cons_of_ne_nil some
              rw [List.modify_succ_cons, parts, dropBlankLast_cons_cons, ← parts, ih,
                dropBlankLast_cons_cons, List.modify_succ_cons]

/-- **A rewritten segment** is a segment of the rewritten text. -/
theorem segmentsFrom_modify {f : List Char → List Char} (keeps : ∀ s, visible (f s) = visible s)
    (found : segmentsFrom 0 arguments = some segments) (i : Nat) :
    segmentsFrom 0 ([','].intercalate (segments.modify i f)) = some (segments.modify i f) := by
  obtain ⟨first, others, rfl⟩ := List.exists_cons_of_ne_nil (segmentsFrom_ne_nil found)
  have passed : ∀ s ∈ first :: others, Passes 0 s 0 :=
    List.forall_mem_cons.mpr (passes_of_segmentsFrom found)
  refine segmentsFrom_intercalate_of_passes
    (mt List.modify_eq_nil_iff.mp (List.cons_ne_nil first others)) fun s member => ?_
  -- Without its blanks it is one of the segments that were there.
  have same := List.mem_map_of_mem (f := visible) member
  rw [map_visible_modify keeps] at same
  obtain ⟨s', member', shown⟩ := List.mem_map.mp same
  rw [← passes_visible, ← shown, passes_visible]
  exact passed s' member'

namespace TypeRef

variable {t u : TypeRef}

/-! ### The frame around the arguments -/

/-- A wildcard is recognised in front of the outer brackets, whatever stands between
them. -/
theorem wildcardOf?_frame (name trailing : List Char) :
    (∀ arguments, wildcardOf? (Text.trim (name ++ '<' :: (arguments ++ '>' :: trailing))) = none) ∨
      ∃ w name', name'.length < name.length ∧ name' ⊆ name ∧ ∀ arguments,
        wildcardOf? (Text.trim (name ++ '<' :: (arguments ++ '>' :: trailing))) =
          some (w, name' ++ '<' :: (arguments ++ '>' :: Text.trimEnd trailing)) := by
  have trimmed : ∀ front arguments back : List Char,
      Text.trim (front ++ '<' :: (arguments ++ '>' :: back)) =
        Text.trimStart front ++ '<' :: (arguments ++ '>' :: Text.trimEnd back) := by
    intro front arguments back
    have tight : Text.IsTight ('<' :: (arguments ++ ['>'])) := by
      refine ⟨fun c first => ?_, fun c last => ?_⟩
      · cases first
        decide
      · rw [← List.cons_append, List.getLast?_concat] at last
        cases last
        decide
    have around := Text.trim_around front tight (List.cons_ne_nil _ _) back
    simpa using around
  by_cases marked : (Text.trimStart name).head? = some '?'
  · obtain ⟨rest, shape⟩ := List.head?_eq_some_iff.mp marked
    have fewer : rest.length < name.length := by
      have lengths := Text.length_trimStart_le name
      rw [shape, List.length_cons] at lengths
      omega
    have inside : Text.trimStart rest ⊆ name := fun c member =>
      Text.trimStart_subset name
        (shape ▸ List.mem_cons_of_mem _ (Text.trimStart_subset rest member))
    refine .inr ?_
    by_cases worded : ∃ (form : BoundForm) (body : List Char),
        Text.trimStart rest = form.word.toList ++ body
    · obtain ⟨form, body, behind⟩ := worded
      refine ⟨form.wildcard, body, ?_, fun c member => ?_, fun arguments => ?_⟩
      · have lengths := Text.length_trimStart_le rest
        rw [behind, List.length_append] at lengths
        omega
      · exact inside (behind ▸ List.mem_append_right _ member)
      · rw [trimmed, shape, List.cons_append]
        refine wildcardOf?_of_word form ?_
        rw [trimmed, behind, Text.trimEnd_trimEnd, List.append_assoc]
    · refine ⟨.unbounded, Text.trimStart rest, ?_, inside, fun arguments => ?_⟩
      · exact Nat.lt_of_le_of_lt (Text.length_trimStart_le rest) fewer
      · rw [trimmed, shape, List.cons_append, wildcardOf?_of_forall_ne, trimmed,
          Text.trimEnd_trimEnd]
        intro form body behind
        rw [trimmed] at behind
        rcases List.append_eq_append_iff.mp behind with ⟨more, word, inner⟩ | ⟨more, front, -⟩
        · cases more with
          | nil => exact worded ⟨form, [], by rw [word, List.append_nil, List.append_nil]⟩
          | cons c more =>
              -- The word would go on behind the bracket, but it has none in it.
              have plainWord : '<' ∉ form.word.toList := by cases form <;> decide
              obtain ⟨rfl, -⟩ := List.cons.inj inner
              exact plainWord (word ▸ List.mem_append_right _ List.mem_cons_self)
        · exact worded ⟨form, more, front⟩
  · refine .inl fun arguments => ?_
    rw [trimmed, wildcardOf?_eq_none_iff]
    cases shape : Text.trimStart name with
    | nil => exact fun other => nomatch other
    | cons c rest =>
        rw [shape] at marked
        exact marked

/-- **The arguments are read on their own.**  What stands around the outer brackets makes
the node above them, and has no influence on them. -/
theorem exists_read_frame (noOpening : '<' ∉ name) (noClosing : '>' ∉ trailing) :
    ∃ node : TypeNode, ∀ arguments segments, splitArguments arguments = some segments →
      read (name ++ '<' :: (arguments ++ '>' :: trailing)) =
        (readAll segments).map fun args => { node with args := args } := by
  induction shorter : name.length using Nat.strong_induction_on generalizing name trailing with
  | _ length ih =>
      rcases wildcardOf?_frame name trailing with unmarked | ⟨w, name', fewer, part, marked⟩
      · refine ⟨{ TypeNode.ofName name with
          brackets := bracketsOf trailing, isArray := endsInBracket ('>' :: trailing) },
          fun arguments segments split => ?_⟩
        have cut := Bracketing.of_append noOpening arguments noClosing
        have last : endsInBracket (name ++ '<' :: (arguments ++ '>' :: trailing)) =
            endsInBracket ('>' :: trailing) := by
          rw [← List.cons_append, ← List.append_assoc, endsInBracket, endsInBracket,
            List.getLast?_append_of_ne_nil _ (List.cons_ne_nil _ _)]
        rw [read_of_generic (unmarked arguments) cut split, last]
      · obtain ⟨node, below⟩ := ih name'.length (shorter ▸ fewer)
          (fun member => noOpening (part member))
          (fun member => noClosing (Text.trimEnd_subset trailing member)) rfl
        refine ⟨{ node with wildcard := some w }, fun arguments segments split => ?_⟩
        rw [read_of_wildcard (marked arguments), below arguments segments split]
        cases readAll segments with
        | error cause => rfl
        | ok args => rfl

/-! ### Rewriting one argument -/

/-- **A specification with one argument text rewritten**, the one at the end of the
path. -/
def rewriteAt (f : List Char → List Char) : List Nat → List Char → List Char
  | [], spec => f spec
  | i :: path, spec =>
    match Bracketing.of spec with
    | .generic name arguments trailing =>
      match segmentsFrom 0 arguments with
      | some segments =>
        name ++ '<' :: ([','].intercalate (segments.modify i (rewriteAt f path)) ++ '>' :: trailing)
      | none => spec
    | .plain _ | .unclosed => spec

/-- **A reference with one argument modified**, the one at the end of the path. -/
def modifyAt (g : TypeRef → TypeRef) : List Nat → TypeRef → TypeRef
  | [], t => g t
  | i :: path, t => { t with args := t.args.modify i (modifyAt g path) }

theorem visible_rewriteAt {f : List Char → List Char} (keeps : ∀ s, visible (f s) = visible s)
    (path : List Nat) (spec : List Char) : visible (rewriteAt f path spec) = visible spec := by
  induction path generalizing spec with
  | nil => exact keeps spec
  | cons i path ih =>
      rw [rewriteAt]
      split
      · next name arguments trailing cut =>
          split
          · next segments found =>
              have same : visible ([','].intercalate (segments.modify i (rewriteAt f path))) =
                  visible arguments := by
                rw [visible_intercalate, map_visible_modify ih, ← visible_intercalate,
                  intercalate_of_segmentsFrom found]
              have whole : ∀ inner, name ++ '<' :: (inner ++ '>' :: trailing) =
                  (name ++ ['<']) ++ inner ++ ('>' :: trailing) := by
                intro inner
                simp
              rw [Bracketing.of_eq_generic cut, whole, whole]
              simp only [visible_append, same]
          · rfl
      · rfl
      · rfl

/-- The arguments next to a rewritten one are read as before. -/
theorem readAll_modify {f : List Char → List Char} {g : TypeRef → TypeRef}
    (each : ∀ s, read (f s) = (read s).map g) (segments : List (List Char)) (i : Nat) :
    readAll (segments.modify i f) = (readAll segments).map (·.modify i g) := by
  induction segments generalizing i with
  | nil =>
      rw [List.modify_nil, readAll]
      exact congrArg Except.ok (List.modify_nil g i).symm
  | cons segment rest ih =>
      cases i with
      | zero =>
          rw [List.modify_zero_cons, readAll, readAll, each]
          cases read segment with
          | error cause => rfl
          | ok t => cases readAll rest <;> rfl
      | succ i =>
          rw [List.modify_succ_cons, readAll, readAll, ih]
          cases read segment with
          | error cause => rfl
          | ok t => cases readAll rest <;> rfl

/-- **Rewriting and reading.**  When a rewriting adds and removes blanks only, and shows as
a modification of what is read, then it does so at every place in a specification. -/
theorem read_rewriteAt {f : List Char → List Char} {g : TypeRef → TypeRef}
    (keeps : ∀ s, visible (f s) = visible s) (each : ∀ s, read (f s) = (read s).map g)
    (path : List Nat) (spec : List Char) :
    read (rewriteAt f path spec) = (read spec).map (modifyAt g path) := by
  induction path generalizing spec with
  | nil => exact each spec
  | cons i path ih =>
      have unread : argumentTexts spec = [] →
          read spec = (read spec).map (modifyAt g (i :: path)) := by
        intro none
        cases done : read spec with
        | error cause => rfl
        | ok t =>
            have alone := forall₂_argumentTexts done
            obtain ⟨node, args⟩ := t
            rw [none, List.forall₂_nil_left_iff] at alone
            obtain rfl : args = [] := alone
            refine congrArg Except.ok ?_
            rw [modifyAt, List.modify_nil]
      rw [rewriteAt]
      cases cut : Bracketing.of spec with
      | plain name =>
          refine unread ?_
          rw [argumentTexts, cut]
      | unclosed =>
          refine unread ?_
          rw [argumentTexts, cut]
      | generic name arguments trailing =>
          dsimp only
          cases found : segmentsFrom 0 arguments with
          | none =>
              refine unread ?_
              rw [argumentTexts, cut]
              dsimp only
              rw [splitArguments, found]
              rfl
          | some segments =>
              dsimp only
              obtain ⟨noOpening, noClosing⟩ := Bracketing.not_mem_of_eq_generic cut
              obtain ⟨node, frame⟩ := exists_read_frame noOpening noClosing
              have keepsBelow := visible_rewriteAt keeps path
              have before : splitArguments arguments = some (dropBlankLast segments) := by
                rw [splitArguments, found, Option.map_some]
              have after :
                  splitArguments ([','].intercalate (segments.modify i (rewriteAt f path))) =
                    some ((dropBlankLast segments).modify i (rewriteAt f path)) := by
                rw [splitArguments, segmentsFrom_modify keepsBelow found, Option.map_some,
                  dropBlankLast_modify keepsBelow]
              rw [frame _ _ after, Bracketing.of_eq_generic cut, frame _ _ before,
                readAll_modify ih]
              cases readAll (dropBlankLast segments) with
              | error cause => rfl
              | ok args => rfl

/-! ### Blanks around one text -/

/-- **A reference without the mark of an array**, if there are blanks behind its text and
no wildcard in front of it. -/
def unmarkedBy (back : List Char) (t : TypeRef) : TypeRef :=
  if back.isEmpty || t.wildcard.isSome then t else { t with isArray := false }

theorem endsInBracket_append_blanks (blank : Text.isBlankText back = true) (some : back ≠ [])
    (text : List Char) : endsInBracket (text ++ back) = false := by
  rw [endsInBracket, List.getLast?_append_of_ne_nil _ some, beq_eq_false_iff_ne]
  intro last
  exact Text.not_mem_of_isBlankText blank rfl (List.mem_of_getLast? last)

/-- **Blanks behind a specification** take the mark of an array away and do nothing
else. -/
theorem read_append_blanks (blank : Text.isBlankText back = true) (text : List Char) :
    read (text ++ back) = (read text).map (unmarkedBy back) := by
  by_cases nothing : back = []
  · subst nothing
    rw [List.append_nil]
    cases read text <;> rfl
  have nil : Text.isBlankText [] = true := rfl
  have same : Text.trim (text ++ back) = Text.trim text := Text.trim_pad nil text blank
  have cutWhole : Bracketing.of (text ++ back) = (Bracketing.of text).around [] back :=
    Bracketing.of_pad nil text blank
  have some : back.isEmpty = false := List.isEmpty_eq_false_iff.mpr nothing
  have last := endsInBracket_append_blanks blank nothing text
  cases marked : wildcardOf? (Text.trim text) with
  | some found =>
      obtain ⟨w, bound⟩ := found
      rw [read_of_wildcard (same.symm ▸ marked), read_of_wildcard marked]
      cases read bound with
      | error cause => rfl
      | ok t =>
          refine congrArg Except.ok ?_
          rw [unmarkedBy, Option.isSome_some, Bool.or_true, if_pos rfl]
  | none =>
      have unmarked : wildcardOf? (Text.trim (text ++ back)) = none := same.symm ▸ marked
      -- Without a wildcard the mark is that of the text, whatever else is in the node.
      have shown : ∀ (node : TypeNode) (args : List TypeRef), node.wildcard = none →
          unmarkedBy back { node with args := args } =
            { node with args := args, isArray := false } := by
        intro node args plain
        rw [unmarkedBy, some, plain]
        rfl
      cases cut : Bracketing.of text with
      | plain name =>
          rw [cut, Bracketing.around, List.nil_append] at cutWhole
          have sameName : TypeNode.ofName (name ++ back) = TypeNode.ofName name :=
            ofName_congr (Text.trim_pad nil name blank)
          rw [read_of_plain marked cut, read_of_plain unmarked cutWhole, last, sameName]
          refine congrArg Except.ok (Eq.symm ?_)
          exact shown { TypeNode.ofName name with isArray := endsInBracket text } []
            (wildcard_ofName name)
      | unclosed =>
          rw [cut, Bracketing.around] at cutWhole
          rw [read_of_unclosed marked cut, read_of_unclosed unmarked cutWhole, same]
          rfl
      | generic name arguments trailing =>
          rw [cut, Bracketing.around, List.nil_append] at cutWhole
          cases balanced : splitArguments arguments with
          | none =>
              rw [read_of_unbalanced marked cut balanced,
                read_of_unbalanced unmarked cutWhole balanced, same]
              rfl
          | some segments =>
              have sameTrailing : Text.trim (trailing ++ back) = Text.trim trailing :=
                Text.trim_pad nil trailing blank
              have sameBrackets : bracketsOf (trailing ++ back) = bracketsOf trailing := by
                rw [bracketsOf, bracketsOf, sameTrailing]
              rw [read_of_generic marked cut balanced,
                read_of_generic unmarked cutWhole balanced, last, sameBrackets]
              cases readAll segments with
              | error cause => rfl
              | ok args =>
                  refine congrArg Except.ok (Eq.symm ?_)
                  exact shown { TypeNode.ofName name with
                    brackets := bracketsOf trailing, isArray := endsInBracket text } args
                    (wildcard_ofName name)

/-- Blanks on both sides of a specification. -/
theorem read_pad (blankFront : Text.isBlankText front = true)
    (blankBack : Text.isBlankText back = true) (text : List Char) :
    read (front ++ text ++ back) = (read text).map (unmarkedBy back) := by
  rw [List.append_assoc, read_blanks_append blankFront, read_append_blanks blankBack]

/-! ### References that differ in the marks of arrays -/

/-- **Two references that differ in the marks of arrays only.**  They have the same
shape, and their nodes agree in everything but that. -/
inductive SameButArrays : TypeRef → TypeRef → Prop
  | node {t u : TypeRef}
      (same : { t.toTypeNode with isArray := false } = { u.toTypeNode with isArray := false })
      (args : List.Forall₂ SameButArrays t.args u.args) : SameButArrays t u

theorem SameButArrays.refl (t : TypeRef) : SameButArrays t t := by
  induction t using inductionOn with
  | node t ih => exact .node rfl (List.forall₂_same.mpr ih)

/-- What is computed along a reference, without a look at the marks, does not depend on
them. -/
theorem SameButArrays.congr {α : Type} {f : TypeRef → α} (same : SameButArrays t u)
    (blind : ∀ t u : TypeRef,
      { t.toTypeNode with isArray := false } = { u.toTypeNode with isArray := false } →
        t.args.map f = u.args.map f → f t = f u) : f t = f u := by
  induction t using inductionOn generalizing u with
  | node t ih =>
      cases same with
      | node here below =>
          refine blind t u here ?_
          rw [← List.forall₂_eq_eq_eq, List.forall₂_map_left_iff, List.forall₂_map_right_iff]
          have each : List.Forall₂ (fun a b => (∀ u, SameButArrays a u → f a = f u) ∧
              SameButArrays a b) t.args u.args :=
            (List.forall₂_and_left ..).mpr ⟨fun a member u => ih a member, below⟩
          exact each.imp fun a b both => both.1 b both.2

/-- A text that takes base names without a look at the marks does not depend on them. -/
theorem SameButArrays.text_eq {write : TypeRef → String} {base : TypeNode → String}
    (made : IsAssembled write base) (blind : ∀ n, base { n with isArray := false } = base n)
    (same : SameButArrays t u) : write t = write u := by
  refine same.congr fun t u here below => ?_
  have names : base t.toTypeNode = base u.toTypeNode := by
    rw [← blind, here, blind]
  have brackets := congrArg TypeNode.brackets here
  rw [made t, made u, below, names]
  exact congrArg (assemble _ _) brackets

theorem SameButArrays.fullName_eq (same : SameButArrays t u) : t.fullName = u.fullName :=
  same.text_eq isAssembled_fullName fun _ => rfl

theorem SameButArrays.shortName_eq (same : SameButArrays t u) : t.shortName = u.shortName :=
  same.text_eq isAssembled_shortName fun _ => rfl

theorem SameButArrays.importPaths_eq (same : SameButArrays t u) :
    t.importPaths = u.importPaths := by
  refine same.congr fun t u here below => ?_
  have path := congrArg TypeNode.importPath? here
  rw [TypeRef.importPaths_eq, TypeRef.importPaths_eq, List.flatMap_def, List.flatMap_def, below]
  exact congrArg (fun p : Option String => p.toList ++ _) path

theorem sameButArrays_unmarkedBy (back : List Char) (t : TypeRef) :
    SameButArrays t (unmarkedBy back t) := by
  rw [unmarkedBy]
  split
  · exact .refl t
  · exact .node rfl (List.forall₂_same.mpr fun a _ => .refl a)

/-- A modification of one argument that keeps all but the marks keeps all but the marks
of the whole. -/
theorem sameButArrays_modifyAt {g : TypeRef → TypeRef} (keeps : ∀ t, SameButArrays t (g t))
    (path : List Nat) (t : TypeRef) : SameButArrays t (modifyAt g path t) := by
  induction path generalizing t with
  | nil => exact keeps t
  | cons i path ih =>
      refine .node rfl ?_
      rw [modifyAt]
      dsimp only
      induction t.args generalizing i with
      | nil =>
          rw [List.modify_nil]
          exact .nil
      | cons a rest later =>
          cases i with
          | zero => exact .cons (ih a) (List.forall₂_same.mpr fun b _ => .refl b)
          | succ i => exact .cons (.refl a) (later i)

/-! ### Blanks around one argument -/

/-- **Blanks around an argument**, or around the whole specification when the path is
empty.  The specification is refused for the same cause as before.  If it is read, all
that can get lost is the mark of an array at the end of the path; names, imports and
everything else are the same at every node. -/
theorem parse_pad (front back : List Char) (blankFront : Text.isBlankText front = true)
    (blankBack : Text.isBlankText back = true) (path : List Nat) (spec : String) :
    parse (String.ofList (rewriteAt (fun a => front ++ a ++ back) path spec.toList)) =
        (parse spec).map (modifyAt (unmarkedBy back) path) ∧
      ∀ t, SameButArrays t (modifyAt (unmarkedBy back) path t) ∧
        (modifyAt (unmarkedBy back) path t).fullName = t.fullName ∧
        (modifyAt (unmarkedBy back) path t).shortName = t.shortName ∧
        (modifyAt (unmarkedBy back) path t).importPaths = t.importPaths := by
  refine ⟨?_, fun t => ?_⟩
  · rw [parse, parse, String.toList_ofList]
    exact read_rewriteAt (fun s => visible_pad blankFront s blankBack)
      (read_pad blankFront blankBack) path spec.toList
  · have same := sameButArrays_modifyAt (sameButArrays_unmarkedBy back) path t
    exact ⟨same, same.fullName_eq.symm, same.shortName_eq.symm, same.importPaths_eq.symm⟩

/-- A blank on each side of the argument of an argument. -/
theorem parse_pad_nested :
    Text.isBlankText [' '] = true ∧
      String.ofList (rewriteAt (fun a => [' '] ++ a ++ [' ']) [1, 0] "Map<K, List<V[]>>".toList) =
        "Map<K, List< V[] >>" ∧
      parse (String.ofList
          (rewriteAt (fun a => [' '] ++ a ++ [' ']) [1, 0] "Map<K, List<V[]>>".toList)) =
        (parse "Map<K, List<V[]>>").map (modifyAt (unmarkedBy [' ']) [1, 0]) ∧
      ∀ t, SameButArrays t (modifyAt (unmarkedBy [' ']) [1, 0] t) ∧
        (modifyAt (unmarkedBy [' ']) [1, 0] t).fullName = t.fullName ∧
        (modifyAt (unmarkedBy [' ']) [1, 0] t).shortName = t.shortName ∧
        (modifyAt (unmarkedBy [' ']) [1, 0] t).importPaths = t.importPaths :=
  ⟨by decide, by decide +kernel, parse_pad [' '] [' '] (by decide) (by decide) [1, 0] _⟩

/-- **A blank behind an array** takes the mark away. -/
theorem parse_pad_array :
    ∃ t u, parse "byte[]" = .ok t ∧ parse "byte[] " = .ok u ∧ t.isArray ≠ u.isArray := by
  obtain ⟨t, done, marked⟩ : ∃ t, parse "byte[]" = .ok t ∧ t.isArray = true :=
    exists_eq_ok (by decide +kernel)
  obtain ⟨u, done', unmarked⟩ : ∃ u, parse "byte[] " = .ok u ∧ u.isArray = false :=
    exists_eq_ok (by decide +kernel)
  exact ⟨t, u, done, done', by rw [marked, unmarked]; exact Bool.noConfusion⟩

end TypeRef

end JavaScaffold
