import JavaScaffold.Manifest.PlanSite
import JavaScaffold.Proofs.Identifier
import JavaScaffold.Proofs.TypeRef.Tree

/-!
# The grammar of type specifications

A specification is a wildcard, or a name with arguments and array brackets, where
the name can be the bound of a wildcard.  How much may be left out or added at the
seams is a matter of rules, and there are three sets of them: the strict rules, the
lenient rules that the manifest promises, and the loose rules, which nothing that is
accepted breaks.

## Main Definitions

* `TypeRules` — what is allowed at the seams of a specification
* `Sentence` — the specifications that keep to some rules
* `TypeRules.strict`, `TypeRules.lenient`, `TypeRules.loose` — the three sets of rules

## Main Statements

* `Sentence.count_brackets_eq` — strict specifications have as many opening as
  closing array brackets
* `Sentence.isClosed` — lenient specifications can stand in an argument list

## Design Notes

Blanks are allowed around every specification, behind a question mark, in front of an
opening angle bracket and around array brackets; those around a name are trimmed away.
The first five rules speak of one text each, and the last one of what stands behind
the last argument: that is a list without elements, or with one.
-/

namespace JavaScaffold

variable {text body front tail rest : List Char} {c : Char}

/-! ### Rules -/

/-- **What is allowed at the seams** of a type specification. -/
structure TypeRules where
  /-- A part of a dotted name. -/
  Segment : List Char → Prop
  /-- What follows a name without arguments. -/
  AfterName : List Char → Prop
  /-- What stands between a name and its arguments. -/
  BeforeArgs : List Char → Prop
  /-- What follows the arguments. -/
  AfterArgs : List Char → Prop
  /-- What follows the question mark of a wildcard without a bound. -/
  AfterMark : List Char → Prop
  /-- What stands behind the last argument, as a list of texts with commas between
  them. -/
  AfterLast : List (List Char) → Prop

/-- Array brackets, each opening bracket with its closing one, and blanks around
them. -/
def IsPairs (tail : List Char) : Prop :=
  ∃ rank, (tail.filter fun c => !Text.isBlank c) = bracketPairs rank

/-- Array brackets and spaces in any order, as long as an opening bracket comes
first. -/
structure IsBracketRun (tail : List Char) : Prop where
  first : ∀ c ∈ (Text.trim tail).head?, c = '['
  only : ∀ c ∈ Text.trim tail, TypeRef.isBracketChar c = true

/-- Nothing, or one blank text. -/
def IsBlankClosing (closing : List (List Char)) : Prop :=
  closing = [] ∨ ∃ last, Text.isBlankText last = true ∧ closing = [last]

namespace TypeRules

/-- **The strict rules.**  Names have no empty parts, array brackets come in pairs,
and nothing else follows what is complete. -/
def strict : TypeRules where
  Segment s := s ≠ [] ∧ Identifier.flaw? s = none
  AfterName := IsPairs
  BeforeArgs before := Text.isBlankText before = true
  AfterArgs := IsPairs
  AfterMark after := Text.isBlankText after = true
  AfterLast closing := closing = []

/-- **The lenient rules.**  Array brackets need not come in pairs, but only plain
spaces may stand among them, and a last argument that is blank does not count. -/
def lenient : TypeRules where
  Segment s := s ≠ [] ∧ Identifier.flaw? s = none
  AfterName := IsBracketRun
  BeforeArgs before := Text.isBlankText before = true
  AfterArgs := IsBracketRun
  AfterMark after := Text.isBlankText after = true
  AfterLast := IsBlankClosing

/-- **The loose rules.**  On top of the lenient ones, the parts of a name can be
empty, brackets can stand in front of the arguments, and any text without a closing
angle bracket behind them; anything follows a question mark but a bound that is no
wildcard itself. -/
def loose : TypeRules where
  Segment s := Identifier.flaw? s = none
  AfterName := IsBracketRun
  BeforeArgs := IsBracketRun
  AfterArgs after := '>' ∉ after
  AfterMark after :=
    ∀ (form : BoundForm) (body : List Char), Text.trim after = form.word.toList ++ body →
      (Text.trim body).head? = some '?'
  AfterLast := IsBlankClosing

end TypeRules

/-! ### Sentences -/

/-- A dotted name with what follows it, and blanks around both. -/
def IsName (Segment After : List Char → Prop) (text : List Char) : Prop :=
  ∃ segments tail, segments ≠ [] ∧ Text.trim text = ['.'].intercalate segments ++ tail ∧
    (∀ s ∈ segments, Segment s) ∧ After tail

/-- The specification `text` is `body`, or a wildcard with the bound `body`. -/
inductive HasBody (body : List Char) : List Char → Prop
  | bare : HasBody body body
  | bound (form : BoundForm) {text rest : List Char} (marked : Text.trim text = '?' :: rest)
      (behind : Text.trim rest = form.word.toList ++ body) : HasBody body text

/-- **The type specifications that keep to the rules `R`.** -/
inductive Sentence (R : TypeRules) : List Char → Prop
  | anything {text rest : List Char} (marked : Text.trim text = '?' :: rest)
      (after : R.AfterMark rest) : Sentence R text
  | name {text body : List Char} (behind : HasBody body text)
      (named : IsName R.Segment R.AfterName body) : Sentence R text
  | generic {text front trailing : List Char} {args closing : List (List Char)}
      (behind : HasBody
        (front ++ '<' :: ([','].intercalate (args ++ closing) ++ '>' :: trailing)) text)
      (named : IsName R.Segment R.BeforeArgs front) (some : args ++ closing ≠ [])
      (each : ∀ a ∈ args, Sentence R a) (last : R.AfterLast closing)
      (after : R.AfterArgs trailing) : Sentence R text

/-- A name keeps to weaker rules as well. -/
theorem IsName.mono {Segment Segment' After After' : List Char → Prop}
    (named : IsName Segment After text) (weaker : ∀ s, Segment s → Segment' s)
    (weaker' : ∀ s, After s → After' s) : IsName Segment' After' text := by
  obtain ⟨segments, tail, some, shape, each, after⟩ := named
  exact ⟨segments, tail, some, shape, fun s found => weaker s (each s found), weaker' tail after⟩

/-! ### The characters of a sentence -/

/-- Whether `c` is blank, or can stand in a dotted name. -/
def isPlainChar (c : Char) : Bool :=
  Text.isBlank c || Identifier.isPart c || c == '.'

theorem isPlainChar_of_isBlank (blank : Text.isBlank c = true) : isPlainChar c = true := by
  rw [isPlainChar, blank, Bool.true_or, Bool.true_or]

theorem isPlainChar_of_isPart (part : Identifier.isPart c = true) : isPlainChar c = true := by
  rw [isPlainChar, part, Bool.or_true, Bool.true_or]

/-- A character that is not plain is not in a plain text. -/
theorem not_mem_of_plain {cs : List Char} {d : Char} (plain : ∀ c ∈ cs, isPlainChar c = true)
    (special : isPlainChar d = false) : d ∉ cs := by
  intro member
  rw [plain d member] at special
  cases special

theorem plain_of_isBlankText (blank : Text.isBlankText text = true) :
    ∀ c ∈ text, isPlainChar c = true :=
  fun c member => isPlainChar_of_isBlank (Text.isBlankText_iff.mp blank c member)

/-- The word of a bound is plain. -/
theorem plain_word (form : BoundForm) : ∀ c ∈ form.word.toList, isPlainChar c = true := by
  cases form with
  | upper => exact List.all_eq_true.mp (by decide)
  | lower => exact List.all_eq_true.mp (by decide)

/-- A bound stands between plain texts and a question mark. -/
theorem HasBody.exists_frame (behind : HasBody body text) :
    ∃ pre post, text = pre ++ body ++ post ∧
      (∀ c ∈ pre, isPlainChar c = true ∨ c = '?') ∧ ∀ c ∈ post, isPlainChar c = true := by
  cases behind with
  | bare => exact ⟨[], [], (List.append_nil _).symm, nofun, nofun⟩
  | @bound form _ rest marked behind =>
      obtain ⟨pre, post, blankPre, blankPost, parts⟩ := Text.exists_pads text
      obtain ⟨pre', post', blankPre', blankPost', parts'⟩ := Text.exists_pads rest
      refine ⟨pre ++ '?' :: (pre' ++ form.word.toList), post' ++ post, ?_, ?_, ?_⟩
      · rw [parts, marked, parts', behind]
        simp only [List.append_assoc, List.cons_append]
      · intro c member
        rw [List.mem_append, List.mem_cons, List.mem_append] at member
        rcases member with here | mark | here | here
        · exact .inl (plain_of_isBlankText blankPre c here)
        · exact .inr mark
        · exact .inl (plain_of_isBlankText blankPre' c here)
        · exact .inl (plain_word form c here)
      · intro c member
        rcases List.mem_append.mp member with here | here
        · exact plain_of_isBlankText blankPost' c here
        · exact plain_of_isBlankText blankPost c here

/-- A dotted name of flawless parts is plain. -/
theorem plain_intercalate {segments : List (List Char)}
    (flawless : ∀ s ∈ segments, Identifier.flaw? s = none) :
    ∀ c ∈ ['.'].intercalate segments, isPlainChar c = true := by
  intro c member
  rcases Text.mem_intercalate member with rfl | ⟨s, found, here⟩
  · decide
  · exact isPlainChar_of_isPart (Identifier.isPart_of_flaw?_eq_none (flawless s found) c here)

/-- What follows a name stands between plain texts. -/
theorem IsName.exists_parts {Segment After : List Char → Prop} (named : IsName Segment After text)
    (flawless : ∀ s, Segment s → Identifier.flaw? s = none) :
    ∃ pre tail post, text = pre ++ tail ++ post ∧ After tail ∧
      (∀ c ∈ pre, isPlainChar c = true) ∧ ∀ c ∈ post, isPlainChar c = true := by
  obtain ⟨segments, tail, -, shape, each, after⟩ := named
  obtain ⟨pre, post, blankPre, blankPost, parts⟩ := Text.exists_pads text
  refine ⟨pre ++ ['.'].intercalate segments, tail, post, ?_, after, ?_, ?_⟩
  · rw [parts, shape, ← List.append_assoc]
  · intro c member
    rcases List.mem_append.mp member with here | here
    · exact plain_of_isBlankText blankPre c here
    · exact plain_intercalate (fun s found => flawless s (each s found)) c here
  · exact plain_of_isBlankText blankPost

/-! ### Strict sentences -/

/-- As many opening as closing array brackets. -/
def IsPaired (cs : List Char) : Prop :=
  cs.count '[' = cs.count ']'

theorem IsPaired.append {cs ds : List Char} (first : IsPaired cs) (second : IsPaired ds) :
    IsPaired (cs ++ ds) := by
  rw [IsPaired] at first second ⊢
  rw [List.count_append, List.count_append, first, second]

theorem isPaired_of_not_mem {cs : List Char} (noOpening : '[' ∉ cs) (noClosing : ']' ∉ cs) :
    IsPaired cs := by
  rw [IsPaired, List.count_eq_zero_of_not_mem noOpening, List.count_eq_zero_of_not_mem noClosing]

theorem isPaired_of_plain {cs : List Char} (plain : ∀ c ∈ cs, isPlainChar c = true) :
    IsPaired cs :=
  isPaired_of_not_mem (not_mem_of_plain plain (by decide)) (not_mem_of_plain plain (by decide))

theorem isPaired_intercalate {segments : List (List Char)}
    (each : ∀ segment ∈ segments, IsPaired segment) : IsPaired ([','].intercalate segments) := by
  induction segments with
  | nil => rfl
  | cons segment rest ih =>
      have here := each segment List.mem_cons_self
      cases rest with
      | nil => rwa [List.intercalate_singleton]
      | cons next rest =>
          have comma : IsPaired [','] := rfl
          rw [List.intercalate_cons_cons]
          have later := ih fun s member => each s (List.mem_cons_of_mem _ member)
          exact (here.append comma).append later

theorem isPaired_bracketPairs (rank : Nat) : IsPaired (bracketPairs rank) := by
  induction rank with
  | zero => rfl
  | succ rank ih =>
      rw [bracketPairs_succ]
      exact ih.append rfl

theorem IsPairs.isPaired (pairs : IsPairs tail) : IsPaired tail := by
  obtain ⟨rank, shape⟩ := pairs
  have same := isPaired_bracketPairs rank
  rwa [← shape, IsPaired, List.count_filter (by decide), List.count_filter (by decide)] at same

theorem IsName.isPaired {Segment After : List Char → Prop} (named : IsName Segment After text)
    (flawless : ∀ s, Segment s → Identifier.flaw? s = none)
    (after : ∀ tail, After tail → IsPaired tail) : IsPaired text := by
  obtain ⟨pre, tail, post, rfl, follows, plainPre, plainPost⟩ := named.exists_parts flawless
  exact ((isPaired_of_plain plainPre).append (after tail follows)).append
    (isPaired_of_plain plainPost)

theorem HasBody.isPaired (behind : HasBody body text) (paired : IsPaired body) :
    IsPaired text := by
  obtain ⟨pre, post, rfl, frame, plainPost⟩ := behind.exists_frame
  have other : ∀ d, isPlainChar d = false → d ≠ '?' → d ∉ pre := by
    intro d special noMark member
    rcases frame d member with plain | mark
    · rw [special] at plain
      cases plain
    · exact noMark mark
  have front : IsPaired pre :=
    isPaired_of_not_mem (other '[' (by decide) (by decide)) (other ']' (by decide) (by decide))
  exact (front.append paired).append (isPaired_of_plain plainPost)

/-- **Strict sentences** have as many opening as closing array brackets. -/
theorem Sentence.count_brackets_eq (sentence : Sentence .strict text) :
    text.count '[' = text.count ']' := by
  suffices paired : IsPaired text from paired
  induction sentence with
  | @anything text rest marked after =>
      obtain ⟨pre, post, blankPre, blankPost, parts⟩ := Text.exists_pads text
      rw [parts, marked]
      have mark : IsPaired ['?'] := rfl
      have marked : IsPaired ('?' :: rest) :=
        mark.append (isPaired_of_plain (plain_of_isBlankText after))
      exact ((isPaired_of_plain (plain_of_isBlankText blankPre)).append marked).append
        (isPaired_of_plain (plain_of_isBlankText blankPost))
  | name behind named =>
      exact behind.isPaired (named.isPaired (fun _ => And.right) fun _ => IsPairs.isPaired)
  | @generic text front trailing args closing behind named some each last after ih =>
      have nothing : closing = [] := last
      have before : IsPaired front := named.isPaired (fun _ => And.right)
        fun tail blank => isPaired_of_plain (plain_of_isBlankText blank)
      have inside : IsPaired ([','].intercalate (args ++ closing)) := by
        rw [nothing, List.append_nil]
        exact isPaired_intercalate ih
      have opening : IsPaired ['<'] := rfl
      have closing' : IsPaired ['>'] := rfl
      have whole := ((before.append opening).append inside).append
        (closing'.append (IsPairs.isPaired after))
      simp only [List.append_assoc, List.singleton_append] at whole
      exact behind.isPaired whole

/-! ### Lenient sentences -/

/-- What array brackets are made of. -/
theorem IsBracketRun.isBlank_or (run : IsBracketRun tail) (member : c ∈ tail) :
    Text.isBlank c = true ∨ TypeRef.isBracketChar c = true := by
  obtain ⟨pre, post, blankPre, blankPost, parts⟩ := Text.exists_pads tail
  rw [parts, List.mem_append, List.mem_append] at member
  rcases member with (here | here) | here
  · exact .inl (Text.isBlankText_iff.mp blankPre c here)
  · exact .inr (run.only c here)
  · exact .inl (Text.isBlankText_iff.mp blankPost c here)

/-- Array brackets and blanks hold no character of an argument list. -/
theorem IsBracketRun.mem (run : IsBracketRun tail) (member : c ∈ tail) :
    isPlainChar c = true ∨ c = '[' ∨ c = ']' := by
  rcases run.isBlank_or member with blank | bracket
  · exact .inl (isPlainChar_of_isBlank blank)
  · rw [TypeRef.isBracketChar, Bool.or_eq_true, Bool.or_eq_true, beq_iff_eq, beq_iff_eq,
      beq_iff_eq] at bracket
    rcases bracket with (opening | closing) | rfl
    · exact .inr (.inl opening)
    · exact .inr (.inr closing)
    · exact .inl (by decide)

/-- Nothing but blanks stands in front of array brackets. -/
theorem IsBracketRun.isBlankText_takeWhile (run : IsBracketRun tail) :
    Text.isBlankText (tail.takeWhile (· != '[')) = true := by
  have first := run.first
  rw [Text.head?_trim] at first
  clear run
  induction tail with
  | nil => rfl
  | cons c rest ih =>
      cases blank : Text.isBlank c with
      | true =>
          have noBracket : (c != '[') = true := by
            rw [bne_iff_ne]
            rintro rfl
            exact absurd blank (by decide)
          rw [List.find?_cons_of_neg (by rw [blank]; decide)] at first
          rw [List.takeWhile_cons, if_pos noBracket, Text.isBlankText, List.all_cons, blank,
            Bool.true_and]
          exact ih first
      | false =>
          rw [List.find?_cons_of_pos (by rw [blank]; rfl)] at first
          rw [first c rfl]
          rfl

theorem isBracketRun_of_isBlankText (blank : Text.isBlankText tail = true) :
    IsBracketRun tail := by
  have nothing := Text.trim_eq_nil_iff.mpr blank
  exact ⟨by rw [nothing]; nofun, by rw [nothing]; nofun⟩

theorem isClosed_of_plain {cs : List Char} (plain : ∀ c ∈ cs, isPlainChar c = true) :
    IsClosed cs := by
  refine isClosed_of_forall fun c member => ⟨?_, ?_, ?_⟩
  all_goals
    rintro rfl
    exact not_mem_of_plain plain (by decide) member

theorem IsBracketRun.isClosed (run : IsBracketRun tail) : IsClosed tail := by
  refine isClosed_of_forall fun c member => ?_
  rcases run.mem member with plain | rfl | rfl
  · refine ⟨?_, ?_, ?_⟩
    all_goals
      rintro rfl
      exact absurd plain (by decide)
  · decide
  · decide

theorem HasBody.isClosed (behind : HasBody body text) (closed : IsClosed body) :
    IsClosed text := by
  obtain ⟨pre, post, rfl, frame, plainPost⟩ := behind.exists_frame
  refine (IsClosed.append ?_ closed).append (isClosed_of_plain plainPost)
  refine isClosed_of_forall fun c member => ?_
  rcases frame c member with plain | rfl
  · refine ⟨?_, ?_, ?_⟩
    all_goals
      rintro rfl
      exact absurd plain (by decide)
  · decide

theorem IsName.isClosed {Segment After : List Char → Prop} (named : IsName Segment After text)
    (flawless : ∀ s, Segment s → Identifier.flaw? s = none)
    (after : ∀ tail, After tail → IsClosed tail) : IsClosed text := by
  obtain ⟨pre, tail, post, rfl, follows, plainPre, plainPost⟩ := named.exists_parts flawless
  exact ((isClosed_of_plain plainPre).append (after tail follows)).append
    (isClosed_of_plain plainPost)

/-- With the arguments, a blank text behind the last of them can stand in the list. -/
theorem isClosed_arguments {args closing : List (List Char)} (each : ∀ a ∈ args, IsClosed a)
    (last : IsBlankClosing closing) : ∀ a ∈ args ++ closing, IsClosed a := by
  intro a member
  rcases List.mem_append.mp member with here | there
  · exact each a here
  · rcases last with rfl | ⟨blankText, blank, rfl⟩
    · cases there
    · rw [List.mem_singleton.mp there]
      exact isClosed_of_plain (plain_of_isBlankText blank)

/-- **Lenient sentences** can stand in an argument list. -/
theorem Sentence.isClosed (sentence : Sentence .lenient text) : IsClosed text := by
  induction sentence with
  | @anything text rest marked after =>
      obtain ⟨pre, post, blankPre, blankPost, parts⟩ := Text.exists_pads text
      have mark : IsClosed ['?'] := isClosed_of_all (by decide)
      have marked' : IsClosed ('?' :: rest) :=
        mark.append (isClosed_of_plain (plain_of_isBlankText after))
      rw [parts, marked]
      exact ((isClosed_of_plain (plain_of_isBlankText blankPre)).append marked').append
        (isClosed_of_plain (plain_of_isBlankText blankPost))
  | name behind named =>
      exact behind.isClosed (named.isClosed (fun _ => And.right) fun _ => IsBracketRun.isClosed)
  | @generic text front trailing args closing behind named some each last after ih =>
      have before : IsClosed front := named.isClosed (fun _ => And.right)
        fun tail blank => isClosed_of_plain (plain_of_isBlankText blank)
      have inside := isClosed_arguments ih last
      have whole := (before.append (IsClosed.angles inside)).append (IsBracketRun.isClosed after)
      simp only [List.append_assoc, List.cons_append, List.nil_append] at whole
      exact behind.isClosed whole

theorem HasBody.subset (behind : HasBody body text) : body ⊆ text := by
  obtain ⟨pre, post, rfl, -, -⟩ := behind.exists_frame
  exact fun c member => List.mem_append_left _ (List.mem_append_right _ member)

/-- Lenient sentences are not blank. -/
theorem Sentence.not_isBlankText (sentence : Sentence .lenient text) :
    ¬ Text.isBlankText text = true := by
  suffices visible : ∃ c ∈ text, Text.isBlank c = false by
    intro blank
    obtain ⟨c, member, shown⟩ := visible
    exact Text.not_mem_of_isBlankText blank shown member
  cases sentence with
  | anything marked after =>
      refine ⟨'?', Text.trim_subset text ?_, by decide⟩
      rw [marked]
      exact List.mem_cons_self
  | name behind named =>
      obtain ⟨segments, tail, some, shape, each, -⟩ := named
      obtain ⟨s, found⟩ := List.exists_mem_of_ne_nil segments some
      obtain ⟨nonempty, flawless⟩ := each s found
      obtain ⟨c, member⟩ := List.exists_mem_of_ne_nil s nonempty
      refine ⟨c, behind.subset (Text.trim_subset _ ?_), ?_⟩
      · rw [shape]
        exact List.mem_append_left _ ((Text.infix_intercalate found).subset member)
      · exact Identifier.isBlank_of_isPart (Identifier.isPart_of_flaw?_eq_none flawless c member)
  | generic behind named some each last after =>
      refine ⟨'<', behind.subset ?_, by decide⟩
      exact List.mem_append_right _ List.mem_cons_self

end JavaScaffold
