import JavaScaffold.Proofs.Layout.Lines

/-!
# Structured bodies

The lines of a body are not parsed: how far a line is indented is guessed from the marks at
its start and at its end, with one line of lookahead.  For bodies that are made of plain
lines, of blocks in braces and of switches the guess is right.  Every line stands as many
levels further in as there are blocks and cases around it.

## Main Definitions

* `LineKind`, `LineOf` — the kinds of lines, told by what a line starts with and ends in
* `StructuredBody` — the bodies that are made of such lines
* `StructuredBody.lines` — the lines of a body, each at the level of its nesting

## Main Statements

* `LineOf.body_cons`, `LineOf.body_jump_cons` — what one line does to the depth
* `StructuredBody.body_append` — behind a structured body the depth is the one before it
* `StructuredBody.body_eq_lines` — writing a structured body

## Design Notes

Only a jump looks at the line behind it, so only a jump needs to know what follows.  In the
grammar a jump stands in front of a line that closes a block or of the label of the next
case, and in no other place.  A switch opens no level for its cases, and a label opens one
for what belongs to the case.  The level of the last case is closed by the line that closes
the switch, so a jump in front of that line closes none.
-/

namespace JavaScaffold

/-! ### Kinds of lines -/

namespace BodyLine

/-- The line `line` starts with the text `front`. -/
def StartsWith (front line : String) : Prop :=
  front.toList <+: line.toList

/-- The last character of the line `line` is `c`. -/
def EndsIn (c : Char) (line : String) : Prop :=
  line.toList.getLast? = some c

instance (front line : String) : Decidable (StartsWith front line) :=
  inferInstanceAs (Decidable (_ <+: _))

instance (c : Char) (line : String) : Decidable (EndsIn c line) :=
  inferInstanceAs (Decidable (_ = _))

end BodyLine

open BodyLine

/-- **The kinds of lines** in a structured body. -/
inductive LineKind
  /-- A line that neither opens nor closes anything. -/
  | plain
  /-- The line that opens a block. -/
  | header
  /-- A line that closes one part of a block and opens the next one, such as `} else {`. -/
  | continuation
  /-- The line that closes a block or a switch. -/
  | closing
  /-- The first line of a switch. -/
  | switch
  /-- The label of a case. -/
  | label
  /-- The line that leaves a case or a block by `break`. -/
  | jump

namespace LineKind

/-- What a line of each kind starts with and ends in. -/
def Fits : LineKind → String → Prop
  | plain, line =>
    ¬ StartsWith "\x7d" line ∧ ¬ StartsWith "break" line ∧ ¬ EndsIn '{' line ∧ ¬ EndsIn ':' line
  | header, line =>
    EndsIn '{' line ∧ ¬ StartsWith "\x7d" line ∧ ¬ StartsWith "break" line ∧
      ¬ StartsWith "switch" line
  | continuation, line => StartsWith "\x7d" line ∧ EndsIn '{' line
  | closing, line => StartsWith "\x7d" line ∧ ¬ EndsIn '{' line ∧ ¬ EndsIn ':' line
  | switch, line => StartsWith "switch" line ∧ EndsIn '{' line
  | label, line => EndsIn ':' line ∧ ¬ StartsWith "\x7d" line ∧ ¬ StartsWith "break" line
  | jump, line => StartsWith "break" line ∧ ¬ EndsIn '{' line ∧ ¬ EndsIn ':' line

instance : (kind : LineKind) → (line : String) → Decidable (kind.Fits line)
  | plain, _ => inferInstanceAs (Decidable (_ ∧ _))
  | header, _ => inferInstanceAs (Decidable (_ ∧ _))
  | continuation, _ => inferInstanceAs (Decidable (_ ∧ _))
  | closing, _ => inferInstanceAs (Decidable (_ ∧ _))
  | switch, _ => inferInstanceAs (Decidable (_ ∧ _))
  | label, _ => inferInstanceAs (Decidable (_ ∧ _))
  | jump, _ => inferInstanceAs (Decidable (_ ∧ _))

/-- How many levels a line closes before it is written. -/
def closes : LineKind → Nat
  | continuation | closing => 1
  | plain | header | switch | label | jump => 0

/-- How many levels a line opens for what is behind it. -/
def opens : LineKind → Nat
  | header | continuation | label => 1
  | plain | closing | switch | jump => 0

end LineKind

/-- **A line of a kind.** -/
structure LineOf (kind : LineKind) where
  text : String
  fits : kind.Fits text

/-- A line of a kind at a level. -/
def LineOf.atLevel {kind : LineKind} (level : Nat) (line : LineOf kind) : CodeLine :=
  ⟨level, line.text⟩

@[simp] theorem LineOf.text_atLevel {kind : LineKind} (level : Nat) (line : LineOf kind) :
    (line.atLevel level).text = line.text := rfl

/-! ### Marks of a line -/

namespace BodyLine

variable {line : String} {kind : LineKind}

theorem isCloser_iff : isCloser line = true ↔ StartsWith "\x7d" line := by
  rw [isCloser, beq_iff_eq, StartsWith]
  cases line.toList with
  | nil => simp
  | cons c cs => simp [eq_comm]

theorem isBreak_iff : isBreak line = true ↔ StartsWith "break" line :=
  List.isPrefixOf_iff_prefix

theorem isOpener_iff :
    isOpener line = true ↔ EndsIn '{' line ∧ ¬ StartsWith "switch" line ∨ EndsIn ':' line := by
  simp only [isOpener, Bool.or_eq_true, Bool.and_eq_true, Bool.not_eq_true', beq_iff_eq, EndsIn,
    StartsWith, ← List.isPrefixOf_iff_prefix, Bool.not_eq_true]

/-- What a line starts with has the first character of the line. -/
theorem StartsWith.head?_eq {front : String} {c : Char} (starts : StartsWith front line)
    (first : front.toList.head? = some c) : line.toList.head? = some c := by
  obtain ⟨back, parts⟩ := starts
  rw [← parts, List.head?_append, first, Option.some_or]

/-- A line does not start with two texts that differ in their first character. -/
theorem StartsWith.not_startsWith {front other : String} {c d : Char}
    (starts : StartsWith front line) (first : front.toList.head? = some c)
    (otherFirst : other.toList.head? = some d) (differs : c ≠ d) : ¬ StartsWith other line := by
  intro also
  have heads := (starts.head?_eq first).symm.trans (also.head?_eq otherFirst)
  exact differs (Option.some.inj heads)

theorem EndsIn.not_endsIn {c d : Char} (ends : EndsIn c line) (differs : c ≠ d) :
    ¬ EndsIn d line := fun also => differs (Option.some.inj (ends.symm.trans also))

end BodyLine

namespace LineOf

variable {kind : LineKind}

theorem isCloser_eq (line : LineOf kind) : isCloser line.text = (kind.closes == 1) := by
  have marked : isCloser line.text = true ↔ StartsWith "\x7d" line.text := isCloser_iff
  obtain ⟨text, fits⟩ := line
  cases kind with
  | continuation => exact marked.mpr fits.1
  | closing => exact marked.mpr fits.1
  | plain => exact Bool.eq_false_iff.mpr fun is => fits.1 (marked.mp is)
  | header => exact Bool.eq_false_iff.mpr fun is => fits.2.1 (marked.mp is)
  | label => exact Bool.eq_false_iff.mpr fun is => fits.2.1 (marked.mp is)
  | switch =>
      have other : ¬ StartsWith "\x7d" text := fits.1.not_startsWith rfl rfl (by decide)
      exact Bool.eq_false_iff.mpr fun is => other (marked.mp is)
  | jump =>
      have other : ¬ StartsWith "\x7d" text := fits.1.not_startsWith rfl rfl (by decide)
      exact Bool.eq_false_iff.mpr fun is => other (marked.mp is)

theorem isOpener_eq (line : LineOf kind) : isOpener line.text = (kind.opens == 1) := by
  have marked : isOpener line.text = true ↔
      EndsIn '{' line.text ∧ ¬ StartsWith "switch" line.text ∨ EndsIn ':' line.text := isOpener_iff
  obtain ⟨text, fits⟩ := line
  cases kind with
  | header => exact marked.mpr (.inl ⟨fits.1, fits.2.2.2⟩)
  | continuation =>
      exact marked.mpr (.inl ⟨fits.2, fits.1.not_startsWith rfl rfl (by decide)⟩)
  | label => exact marked.mpr (.inr fits.1)
  | switch =>
      refine Bool.eq_false_iff.mpr fun is => ?_
      rcases marked.mp is with ⟨-, ordinary⟩ | colon
      · exact ordinary fits.1
      · exact fits.2.not_endsIn (by decide) colon
  | plain =>
      refine Bool.eq_false_iff.mpr fun is => ?_
      exact (marked.mp is).elim (fun brace => fits.2.2.1 brace.1) fits.2.2.2
  | closing =>
      refine Bool.eq_false_iff.mpr fun is => ?_
      exact (marked.mp is).elim (fun brace => fits.2.1 brace.1) fits.2.2
  | jump =>
      refine Bool.eq_false_iff.mpr fun is => ?_
      exact (marked.mp is).elim (fun brace => fits.2.1 brace.1) fits.2.2

/-- Only a jump starts with `break`. -/
theorem isBreak_eq_false (line : LineOf kind) (stays : kind ≠ .jump) :
    isBreak line.text = false := by
  refine Bool.eq_false_iff.mpr fun is => ?_
  have starts := isBreak_iff.mp is
  obtain ⟨text, fits⟩ := line
  cases kind with
  | plain => exact fits.2.1 starts
  | header => exact fits.2.2.1 starts
  | label => exact fits.2.2 starts
  | continuation => exact fits.1.not_startsWith rfl rfl (by decide) starts
  | closing => exact fits.1.not_startsWith rfl rfl (by decide) starts
  | switch => exact fits.1.not_startsWith rfl rfl (by decide) starts
  | jump => exact stays rfl

/-! ### Lines and the depth -/

variable {level depth : Nat} {rest : List String}

/-- **A line that is no jump** stands at the depth outside of it, and leaves that depth
plus the level that it opens, whatever follows. -/
theorem body_cons (line : LineOf kind) (stays : kind ≠ .jump) (level depth : Nat)
    (rest : List String) :
    CodeLine.body level ↑(depth + kind.closes) (line.text :: rest) =
      line.atLevel (level + depth) :: CodeLine.body level ↑(depth + kind.opens) rest := by
  have noEnd : endsCase line.text rest = false := by
    rw [endsCase, line.isBreak_eq_false stays, Bool.false_and]
  have own : depthAt ↑(depth + kind.closes) line.text = (depth : Int) := by
    rw [depthAt, line.isCloser_eq]
    cases kind <;> simp [LineKind.closes]
  have after : depthAfter depth line.text rest = ↑(depth + kind.opens) := by
    rw [depthAfter, line.isOpener_eq, noEnd]
    cases kind <;> simp [LineKind.opens]
  rw [CodeLine.body, own, after]
  rfl

/-- **A jump** closes a level, unless the line behind it closes that level. -/
theorem body_jump_cons (line : LineOf .jump) (level : Nat) (depth : Int) (rest : List String) :
    CodeLine.body level depth (line.text :: rest) =
      ⟨(level + depth).toNat, line.text⟩ ::
        CodeLine.body level (if rest.head?.any isCloser then depth else depth - 1) rest := by
  have jumps : isBreak line.text = true := isBreak_iff.mpr line.fits.1
  have own : depthAt depth line.text = depth := by
    rw [depthAt, line.isCloser_eq]
    rfl
  have after : depthAfter depth line.text rest =
      if rest.head?.any isCloser then depth else depth - 1 := by
    rw [depthAfter, line.isOpener_eq, endsCase, jumps]
    cases rest.head?.any isCloser <;> simp [LineKind.opens]
  rw [CodeLine.body, own, after]

end LineOf

/-! ### Bodies -/

mutual

/-- **A structured body**: plain lines, blocks and switches, one after the other. -/
inductive StructuredBody
  | done
  | plain (line : LineOf .plain) (rest : StructuredBody)
  | block (header : LineOf .header) (parts : BlockParts) (rest : StructuredBody)
  | switch (header : LineOf .switch) (cases : SwitchCases) (rest : StructuredBody)

/-- What is behind the header of a block: its parts, each with the line that ends it.  There
may be a jump in front of that line. -/
inductive BlockParts
  | last (body : StructuredBody) (jump : Option (LineOf .jump)) (closing : LineOf .closing)
  | more (body : StructuredBody) (jump : Option (LineOf .jump)) (line : LineOf .continuation)
      (parts : BlockParts)

/-- What is behind the first line of a switch: its cases and the line that closes it.  Every
case but the last one ends in a jump. -/
inductive SwitchCases
  | last (label : LineOf .label) (body : StructuredBody) (jump : Option (LineOf .jump))
      (closing : LineOf .closing)
  | more (label : LineOf .label) (body : StructuredBody) (jump : LineOf .jump)
      (cases : SwitchCases)

end

mutual

/-- **The lines of a structured body** at a level.  What belongs to a block or to a case
stands one level further in. -/
def StructuredBody.lines (level : Nat) : StructuredBody → List CodeLine
  | .done => []
  | .plain line rest => line.atLevel level :: rest.lines level
  | .block header parts rest => header.atLevel level :: parts.lines level ++ rest.lines level
  | .switch header cases rest => header.atLevel level :: cases.lines level ++ rest.lines level

/-- The lines of a block behind its header, which stands at the level `level`. -/
def BlockParts.lines (level : Nat) : BlockParts → List CodeLine
  | .last body jump closing =>
    body.lines (level + 1) ++ jump.toList.map (LineOf.atLevel (level + 1)) ++
      [closing.atLevel level]
  | .more body jump line parts =>
    body.lines (level + 1) ++ jump.toList.map (LineOf.atLevel (level + 1)) ++
      line.atLevel level :: parts.lines level

/-- The lines of a switch behind its first line, which stands at the level `level`. -/
def SwitchCases.lines (level : Nat) : SwitchCases → List CodeLine
  | .last label body jump closing =>
    label.atLevel level :: body.lines (level + 1) ++ jump.toList.map (LineOf.atLevel (level + 1)) ++
      [closing.atLevel level]
  | .more label body jump cases =>
    label.atLevel level :: body.lines (level + 1) ++ jump.atLevel (level + 1) :: cases.lines level

end

/-- A structured body as it is written down, without its levels. -/
def StructuredBody.texts (s : StructuredBody) : List String :=
  (s.lines 0).map CodeLine.text

/-! ### Bodies and the depth -/

/-- A jump that may stand in front of a line that closes a level stands at that level. -/
theorem LineOf.body_jump?_append {kind : LineKind} (jump : Option (LineOf .jump))
    (line : LineOf kind) (closes : kind.closes = 1) (l level depth : Nat) (rest : List String) :
    CodeLine.body level depth
        ((jump.toList.map (atLevel l)).map CodeLine.text ++ line.text :: rest) =
      jump.toList.map (atLevel (level + depth)) ++
        CodeLine.body level depth (line.text :: rest) := by
  cases jump with
  | none => rfl
  | some jump =>
      have followed : ((line.text :: rest).head?.any isCloser) = true := by
        rw [List.head?_cons, Option.any_some, line.isCloser_eq, closes]
        rfl
      have step := jump.body_jump_cons level depth (line.text :: rest)
      rw [if_pos followed] at step
      exact step

/-- A jump in front of a label closes the level of its case. -/
theorem LineOf.body_jump_label (jump : LineOf .jump) (label : LineOf .label) (level depth : Nat)
    (rest : List String) :
    CodeLine.body level ↑(depth + 1) (jump.text :: label.text :: rest) =
      jump.atLevel (level + (depth + 1)) :: CodeLine.body level depth (label.text :: rest) := by
  have step := jump.body_jump_cons level ↑(depth + 1) (label.text :: rest)
  have ordinary : ¬ ((label.text :: rest).head?.any isCloser) = true := by
    rw [List.head?_cons, Option.any_some, label.isCloser_eq]
    exact Bool.false_ne_true
  rw [if_neg ordinary, Int.natCast_succ, Int.add_sub_cancel] at step
  exact step

/-- The lines of cases start with a label. -/
theorem SwitchCases.exists_lines_eq (cases : SwitchCases) :
    ∃ label : LineOf .label, ∀ level, ∃ more, cases.lines level = label.atLevel level :: more := by
  cases cases with
  | last label body jump closing => exact ⟨label, fun level => ⟨_, rfl⟩⟩
  | more label body jump cases => exact ⟨label, fun level => ⟨_, rfl⟩⟩

mutual

/-- **Behind a structured body** the depth is the one in front of it, and every line of it
stands at the level of its nesting. -/
theorem StructuredBody.body_append (s : StructuredBody) (l level depth : Nat)
    (rest : List String) :
    CodeLine.body level depth ((s.lines l).map CodeLine.text ++ rest) =
      s.lines (level + depth) ++ CodeLine.body level depth rest := by
  match s with
  | .done => rfl
  | .plain line more =>
      have step : ∀ texts, CodeLine.body level depth (line.text :: texts) =
          line.atLevel (level + depth) :: CodeLine.body level depth texts :=
        line.body_cons nofun level depth
      simp only [StructuredBody.lines, LineOf.text_atLevel, List.map_cons, List.cons_append]
      rw [step, more.body_append]
  | .block header parts more =>
      have step : ∀ texts, CodeLine.body level depth (header.text :: texts) =
          header.atLevel (level + depth) :: CodeLine.body level ↑(depth + 1) texts :=
        header.body_cons nofun level depth
      simp only [StructuredBody.lines, LineOf.text_atLevel, List.map_append, List.map_cons,
        List.cons_append, List.append_assoc]
      rw [step, parts.body_append, more.body_append]
  | .switch header cases more =>
      have step : ∀ texts, CodeLine.body level depth (header.text :: texts) =
          header.atLevel (level + depth) :: CodeLine.body level depth texts :=
        header.body_cons nofun level depth
      simp only [StructuredBody.lines, LineOf.text_atLevel, List.map_append, List.map_cons,
        List.cons_append, List.append_assoc]
      rw [step, cases.body_append, more.body_append]

theorem BlockParts.body_append (parts : BlockParts) (l level depth : Nat) (rest : List String) :
    CodeLine.body level ↑(depth + 1) ((parts.lines l).map CodeLine.text ++ rest) =
      parts.lines (level + depth) ++ CodeLine.body level depth rest := by
  match parts with
  | .last body jump closing =>
      have step : ∀ texts, CodeLine.body level ↑(depth + 1) (closing.text :: texts) =
          closing.atLevel (level + depth) :: CodeLine.body level depth texts :=
        closing.body_cons nofun level depth
      simp only [BlockParts.lines, LineOf.text_atLevel, List.map_append, List.map_cons,
        List.map_nil, List.append_assoc, List.singleton_append]
      rw [body.body_append, LineOf.body_jump?_append jump closing rfl, step]
      rfl
  | .more body jump line parts =>
      have step : ∀ texts, CodeLine.body level ↑(depth + 1) (line.text :: texts) =
          line.atLevel (level + depth) :: CodeLine.body level ↑(depth + 1) texts :=
        line.body_cons nofun level depth
      simp only [BlockParts.lines, LineOf.text_atLevel, List.map_append, List.map_cons,
        List.append_assoc, List.cons_append]
      rw [body.body_append, LineOf.body_jump?_append jump line rfl, step, parts.body_append]
      rfl

theorem SwitchCases.body_append (cases : SwitchCases) (l level depth : Nat)
    (rest : List String) :
    CodeLine.body level depth ((cases.lines l).map CodeLine.text ++ rest) =
      cases.lines (level + depth) ++ CodeLine.body level depth rest := by
  match cases with
  | .last label body jump closing =>
      have step : ∀ texts, CodeLine.body level depth (label.text :: texts) =
          label.atLevel (level + depth) :: CodeLine.body level ↑(depth + 1) texts :=
        label.body_cons nofun level depth
      have stop : ∀ texts, CodeLine.body level ↑(depth + 1) (closing.text :: texts) =
          closing.atLevel (level + depth) :: CodeLine.body level depth texts :=
        closing.body_cons nofun level depth
      simp only [SwitchCases.lines, LineOf.text_atLevel, List.map_append, List.map_cons,
        List.map_nil, List.append_assoc, List.cons_append, List.nil_append]
      rw [step, body.body_append, LineOf.body_jump?_append jump closing rfl, stop]
      rfl
  | .more label body jump cases =>
      have step : ∀ texts, CodeLine.body level depth (label.text :: texts) =
          label.atLevel (level + depth) :: CodeLine.body level ↑(depth + 1) texts :=
        label.body_cons nofun level depth
      obtain ⟨next, starts⟩ := cases.exists_lines_eq
      obtain ⟨later, parts⟩ := starts l
      have leave : CodeLine.body level ↑(depth + 1)
          (jump.text :: ((cases.lines l).map CodeLine.text ++ rest)) =
          jump.atLevel (level + (depth + 1)) ::
            CodeLine.body level depth ((cases.lines l).map CodeLine.text ++ rest) := by
        rw [parts]
        exact jump.body_jump_label next level depth _
      simp only [SwitchCases.lines, LineOf.text_atLevel, List.map_append, List.map_cons,
        List.append_assoc, List.cons_append]
      rw [step, body.body_append, leave, cases.body_append]
      rfl

end

/-- **Structured bodies are indented by their nesting.**  Every line of the body stands one
level further in than the builder, and one more for each block and each case around it.  The
brace behind the body stands at the level of the builder. -/
theorem StructuredBody.body_eq_lines (s : StructuredBody) (b : CodeBuilder) :
    b.body s.texts =
      { b with
        text := b.text ++
          CodeLine.print b.indent (s.lines (b.level + 1) ++ [⟨b.level, "\x7d"⟩]) } := by
  have whole := s.body_append 0 b.level 1 []
  rw [List.append_nil] at whole
  rw [CodeBuilder.body, CodeBuilder.bodyFrom_eq_append, texts]
  have closed : CodeLine.body b.level ((1 : Nat) : Int) [] = [⟨b.level, "\x7d"⟩] := rfl
  rw [closed] at whole
  exact congrArg b.append whole

/-- The cases of a switch, the last of them with a block that a jump ends. -/
example :
    let idle : StructuredBody := .plain ⟨"idle();", by decide⟩ .done
    let leave : LineOf .jump := ⟨"break;", by decide⟩
    let close : LineOf .closing := ⟨"\x7d", by decide⟩
    let loop : StructuredBody :=
      .block ⟨"while (busy()) \x7b", by decide⟩ (.last idle (some leave) close) .done
    let cases : SwitchCases :=
      .more ⟨"case 0:", by decide⟩ idle leave (.last ⟨"default:", by decide⟩ loop none close)
    let switch : StructuredBody := .switch ⟨"switch (n) \x7b", by decide⟩ cases .done
    (CodeBuilder.body ⟨.tab, 0, "run() \x7b\n"⟩ switch.texts).text =
      "run() \x7b\n\tswitch (n) \x7b\n\tcase 0:\n\t\tidle();\n\t\tbreak;\n\tdefault:\n" ++
        "\t\twhile (busy()) \x7b\n\t\t\tidle();\n\t\t\tbreak;\n\t\t\x7d\n\t\x7d\n\x7d\n" := by
  decide +kernel

end JavaScaffold
