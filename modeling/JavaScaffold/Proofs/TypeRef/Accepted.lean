import JavaScaffold.Proofs.TypeRef.Grammar
import Mathlib.Data.List.Forall2

/-!
# Which type specifications are accepted

A specification is accepted when it can be read and the names in what has been read
are formed like identifiers.  The reader is forgiving, and the check of the names
sees only what the reader has kept.  Between the two, every lenient sentence is
accepted, and nothing but loose sentences.

## Main Definitions

* `TypeRef.Accepted` — the specifications that pass

## Main Statements

* `TypeRef.nodeFlaw_eq_none_iff_isName` — the check of one name
* `Sentence.accepted` — lenient sentences are accepted
* `TypeRef.sentence_of_read` — what is accepted is a loose sentence
* `PlanSite.readType_sentence` — both, for a type in a manifest

## Design Notes

The two grammars do not meet.  What lies between them, such as an empty part of a
name or text behind the arguments, is neither promised nor ruled out.
-/

namespace JavaScaffold

namespace TypeRef

variable {text body front name : List Char} {t : TypeRef} {n : TypeNode}

/-! ### The check of one name -/

theorem badSegment?_eq_none_iff :
    badSegment? name = none ↔ ∀ s ∈ Text.splitAll '.' name, Identifier.flaw? s = none := by
  rw [badSegment?, List.findSome?_eq_none_iff]
  exact forall₂_congr fun s _ => Option.map_eq_none_iff

theorem trailing?_eq_none_iff :
    trailing? name = none ↔
      ∀ c ∈ Text.trim (name.drop (dottedName name).length), isBracketChar c = true := by
  rw [trailing?, ← List.all_eq_true]
  split
  · next all => exact ⟨fun _ => all, fun _ => rfl⟩
  · next other => exact ⟨nofun, fun all => absurd all other⟩

theorem nodeFlaw_eq_none_iff (visible : n.wildcard ≠ some .unbounded) :
    TypeNode.flaw? n = none ↔
      badSegment? (dottedName n.qualifiedName.toList) = none ∧
        trailing? n.qualifiedName.toList = none := by
  rw [TypeNode.flaw?, if_neg]
  · cases badSegment? (dottedName n.qualifiedName.toList) with
    | some flaw => exact ⟨nofun, fun both => nomatch both.1⟩
    | none => exact ⟨fun none => ⟨rfl, none⟩, And.right⟩
  · rw [beq_iff_eq]
    exact visible

/-- The dotted name ends where the array brackets start. -/
theorem dottedName_append {tail : List Char} (plain : ∀ c ∈ front, isPlainChar c = true)
    (tight : Text.IsTight front) (run : IsBracketRun tail) :
    dottedName (front ++ tail) = front := by
  have noBracket : ∀ c ∈ front, (c != '[') = true := by
    intro c member
    rw [bne_iff_ne]
    rintro rfl
    exact not_mem_of_plain plain (by decide) member
  rw [dottedName, List.takeWhile_append_of_pos noBracket,
    Text.trimEnd_append_blanks _ run.isBlankText_takeWhile, Text.trimEnd_eq_self tight.last]

/-- A name is its dotted part and what follows that; what follows is no more than
blanks when there are no array brackets. -/
theorem exists_dottedName_append (name : List Char) :
    ∃ blanks brackets, name = dottedName name ++ (blanks ++ brackets) ∧
      Text.isBlankText blanks = true ∧ ∀ c ∈ brackets.head?, c = '[' := by
  obtain ⟨blanks, blank, parts⟩ := Text.exists_append_trimEnd (name.takeWhile (· != '['))
  refine ⟨blanks, name.dropWhile (· != '['), ?_, blank, ?_⟩
  · rw [dottedName, ← List.append_assoc, ← parts, List.takeWhile_append_dropWhile]
  · intro c first
    have stop := List.head?_dropWhile_not (· != '[') name
    rw [Option.mem_def.mp first] at stop
    exact bne_eq_false_iff_eq.mp stop

/-- **The check of one name** asks for flawless parts, and for nothing but array
brackets behind them. -/
theorem nodeFlaw_eq_none_iff_isName (front : List Char) (visible : n.wildcard ≠ some .unbounded)
    (written : n.qualifiedName.toList = Text.trim front) :
    TypeNode.flaw? n = none ↔ IsName TypeRules.loose.Segment IsBracketRun front := by
  rw [nodeFlaw_eq_none_iff visible, badSegment?_eq_none_iff, trailing?_eq_none_iff, written]
  constructor
  · rintro ⟨flawless, only⟩
    obtain ⟨blanks, brackets, parts, blank, first⟩ := exists_dottedName_append (Text.trim front)
    have behind : (Text.trim front).drop (dottedName (Text.trim front)).length =
        blanks ++ brackets :=
      (congrArg (List.drop _) parts).trans List.drop_left
    refine ⟨_, blanks ++ brackets, Text.splitAll_ne_nil '.' _, ?_, flawless, ?_, ?_⟩
    · rw [Text.intercalate_splitAll]
      exact parts
    · intro c shown
      rw [Text.trim_blanks_append blank, Text.head?_trim] at shown
      cases brackets with
      | nil => cases shown
      | cons d rest =>
          rw [first d rfl, List.find?_cons_of_pos (by decide)] at shown
          exact (Option.some.inj shown).symm
    · rwa [behind] at only
  · rintro ⟨segments, tail, some, shape, flawless, run⟩
    have plain := plain_intercalate flawless
    have parts : ∀ s ∈ segments, ∀ c ∈ s, Identifier.isPart c = true :=
      fun s found => Identifier.isPart_of_flaw?_eq_none (flawless s found)
    have tight : Text.IsTight (['.'].intercalate segments) := by
      refine Text.isTight_of_forall fun c member => ?_
      rcases Text.mem_intercalate member with rfl | ⟨s, found, here⟩
      · decide
      · exact Identifier.isBlank_of_isPart (parts s found c here)
    have free : ∀ s ∈ segments, '.' ∉ s := by
      intro s found member
      exact absurd (parts s found '.' member) (by decide)
    rw [shape, dottedName_append plain tight run, Text.splitAll_intercalate some free,
      List.drop_left]
    exact ⟨flawless, run.only⟩

/-! ### The check of a whole reference -/

theorem flawInAll?_eq_none_iff {ts : List TypeRef} :
    flawInAll? ts = none ↔ ∀ t ∈ ts, t.flaw? = none := by
  induction ts with
  | nil => exact ⟨fun _ => nofun, fun _ => rfl⟩
  | cons t ts ih =>
      rw [flawInAll?, List.forall_mem_cons]
      cases t.flaw? with
      | some flaw => exact ⟨nofun, fun all => nomatch all.1⟩
      | none => exact ⟨fun later => ⟨rfl, ih.mp later⟩, fun all => ih.mpr all.2⟩

/-- A reference has no flaw when none of its nodes has one. -/
theorem flaw?_eq_none_iff :
    t.flaw? = none ↔ TypeNode.flaw? t.toTypeNode = none ∧ ∀ a ∈ t.args, a.flaw? = none := by
  obtain ⟨node, args⟩ := t
  rw [flaw?, ← flawInAll?_eq_none_iff]
  dsimp only
  cases TypeNode.flaw? node with
  | some flaw => exact ⟨nofun, fun both => nomatch both.1⟩
  | none => exact ⟨fun later => ⟨rfl, later⟩, And.right⟩

/-- A bound has the flaws of the name behind its word. -/
theorem flaw?_bound (form : BoundForm) (bare : t.wildcard = none) :
    { t with wildcard := some form.wildcard : TypeRef }.flaw? = none ↔ t.flaw? = none := by
  have visible : some form.wildcard ≠ some Wildcard.unbounded := by
    cases form with
    | upper => decide
    | lower => decide
  rw [flaw?_eq_none_iff, flaw?_eq_none_iff, nodeFlaw_eq_none_iff visible,
    nodeFlaw_eq_none_iff (by rw [bare]; nofun)]
  exact Iff.rfl

/-! ### Acceptance -/

/-- **An accepted specification** can be read, and the names in it are formed like
identifiers. -/
def Accepted (text : List Char) : Prop :=
  ∃ t, read text = .ok t ∧ t.flaw? = none

/-- What has been read without a question mark is no wildcard. -/
theorem wildcard_eq_none_of_read (unmarked : wildcardOf? (Text.trim text) = none)
    (done : read text = .ok t) : t.wildcard = none := by
  rcases read_cases done with ⟨w, bound, b, marked, -, -⟩ | ⟨-, -, rfl⟩ |
    ⟨-, name, arguments, trailing, segments, args, -, -, -, rfl⟩
  · rw [unmarked] at marked
    cases marked
  · exact wildcard_ofName text
  · exact wildcard_ofName name

theorem wildcardOf?_eq_none_of_not_mem (noMark : '?' ∉ text) :
    wildcardOf? (Text.trim text) = none := by
  rw [wildcardOf?_eq_none_iff]
  intro marked
  exact noMark (Text.trim_subset text (List.mem_of_head? marked))

/-- A question mark inside the angle brackets is not in front. -/
theorem wildcardOf?_eq_none_of_front (noMark : '?' ∉ front) (rest : List Char) :
    wildcardOf? (Text.trim (front ++ '<' :: rest)) = none := by
  rw [wildcardOf?_eq_none_iff, Text.head?_trim, List.find?_append]
  intro marked
  rcases Option.or_eq_some_iff.mp marked with here | ⟨-, there⟩
  · exact noMark (List.mem_of_find?_eq_some here)
  · rw [List.find?_cons_of_pos (by decide)] at there
    cases there

/-- Nothing but plain characters and array brackets is in a name. -/
theorem not_mem_of_isName (named : IsName TypeRules.loose.Segment IsBracketRun text) {d : Char}
    (special : isPlainChar d = false) (noOpening : d ≠ '[') (noClosing : d ≠ ']') :
    d ∉ text := by
  obtain ⟨pre, tail, post, rfl, run, plainPre, plainPost⟩ := named.exists_parts fun _ => id
  rw [List.mem_append, List.mem_append, not_or, not_or]
  refine ⟨⟨not_mem_of_plain plainPre special, fun member => ?_⟩,
    not_mem_of_plain plainPost special⟩
  rcases run.mem member with plain | opening | closing
  · rw [special] at plain
    cases plain
  · exact noOpening opening
  · exact noClosing closing

/-- A wildcard is accepted when its bound is. -/
theorem accepted_of_hasBody (behind : HasBody body text) (done : read body = .ok t)
    (bare : t.wildcard = none) (flawless : t.flaw? = none) : Accepted text := by
  cases behind with
  | bare => exact ⟨t, done, flawless⟩
  | bound form marked behind =>
      have found : wildcardOf? (Text.trim text) = some (form.wildcard, body) := by
        rw [marked]
        exact wildcardOf?_of_word form behind
      refine ⟨_, ?_, (flaw?_bound form bare).mpr flawless⟩
      rw [read_of_wildcard found, done]
      rfl

/-- Accepted arguments are read together. -/
theorem exists_readAll {segments : List (List Char)} (each : ∀ s ∈ segments, Accepted s) :
    ∃ ts, readAll segments = .ok ts ∧ ∀ t ∈ ts, t.flaw? = none := by
  induction segments with
  | nil => exact ⟨[], readAll_eq_ok_iff.mpr .nil, nofun⟩
  | cons s rest ih =>
      obtain ⟨t, here, flawless⟩ := each s List.mem_cons_self
      obtain ⟨ts, later, all⟩ := ih fun s member => each s (List.mem_cons_of_mem _ member)
      refine ⟨t :: ts, readAll_eq_ok_iff.mpr (.cons here (readAll_eq_ok_iff.mp later)), ?_⟩
      exact List.forall_mem_cons.mpr ⟨flawless, all⟩

/-- Arguments that are read together are read one by one. -/
theorem exists_mem_of_readAll {segments : List (List Char)} {ts : List TypeRef}
    (done : readAll segments = .ok ts) : ∀ s ∈ segments, ∃ t ∈ ts, read s = .ok t := by
  have all := readAll_eq_ok_iff.mp done
  clear done
  induction all with
  | nil => nofun
  | @cons s t rest ts here later ih =>
      refine List.forall_mem_cons.mpr ⟨⟨t, List.mem_cons_self, here⟩, fun s' member => ?_⟩
      obtain ⟨t', found, there⟩ := ih s' member
      exact ⟨t', List.mem_cons_of_mem _ found, there⟩

/-! ### Lenient sentences are accepted -/

/-- A name is read as itself. -/
theorem exists_read_of_isName (named : IsName TypeRules.loose.Segment IsBracketRun body) :
    ∃ t, read body = .ok t ∧ t.wildcard = none ∧ t.flaw? = none := by
  have noMark : '?' ∉ body := not_mem_of_isName named (by decide) (by decide) (by decide)
  have noOpening : '<' ∉ body := not_mem_of_isName named (by decide) (by decide) (by decide)
  have unmarked := wildcardOf?_eq_none_of_not_mem noMark
  refine ⟨_, read_of_plain unmarked (Bracketing.of_of_not_mem noOpening), ?_, ?_⟩
  · exact wildcard_ofName body
  · rw [flaw?_eq_none_iff, nodeFlaw_eq_none_iff_isName body]
    · exact ⟨named, nofun⟩
    · rw [wildcard_ofName]
      nofun
    · exact toList_qualifiedName_ofName body

/-- A name with arguments is read as itself, if its arguments are accepted. -/
theorem exists_read_of_generic {trailing : List Char} {args closing : List (List Char)}
    (named : IsName TypeRules.loose.Segment IsBracketRun front) (noClosing : '>' ∉ trailing)
    (some : args ++ closing ≠ []) (closed : ∀ a ∈ args ++ closing, IsClosed a)
    (last : IsBlankClosing closing) (visible : ∀ a ∈ args, ¬ Text.isBlankText a = true)
    (each : ∀ a ∈ args, Accepted a) :
    ∃ t, read (front ++ '<' :: ([','].intercalate (args ++ closing) ++ '>' :: trailing)) = .ok t ∧
      t.wildcard = none ∧ t.flaw? = none := by
  have noMark : '?' ∉ front := not_mem_of_isName named (by decide) (by decide) (by decide)
  have noOpening : '<' ∉ front := not_mem_of_isName named (by decide) (by decide) (by decide)
  have unmarked := wildcardOf?_eq_none_of_front noMark
    ([','].intercalate (args ++ closing) ++ '>' :: trailing)
  have cut := Bracketing.of_append noOpening ([','].intercalate (args ++ closing)) noClosing
  have dropped : dropBlankLast (args ++ closing) = args := by
    rcases last with rfl | ⟨blankText, blank, rfl⟩
    · rw [List.append_nil]
      exact dropBlankLast_of_last fun a found => visible a (List.mem_of_getLast? found)
    · exact dropBlankLast_concat args blank
  have split := splitArguments_intercalate some closed
  rw [dropped] at split
  obtain ⟨ts, done, flawless⟩ := exists_readAll each
  have whole := read_of_generic unmarked cut split
  rw [done] at whole
  refine ⟨_, whole, wildcard_ofName front, ?_⟩
  rw [flaw?_eq_none_iff, nodeFlaw_eq_none_iff_isName front]
  · exact ⟨named, flawless⟩
  · rw [wildcard_ofName]
    nofun
  · exact toList_qualifiedName_ofName front

/-! ### What is accepted is a loose sentence -/

/-- The words of the two forms tell them apart. -/
theorem word_append_inj {form form' : BoundForm} {rest : List Char}
    (same : form.word.toList ++ body = form'.word.toList ++ rest) : body = rest := by
  cases form with
  | upper =>
      cases form' with
      | upper => exact List.append_cancel_left same
      | lower =>
          have firsts : some 'e' = some 's' := congrArg List.head? same
          cases firsts
  | lower =>
      cases form' with
      | upper =>
          have firsts : some 's' = some 'e' := congrArg List.head? same
          cases firsts
      | lower => exact List.append_cancel_left same

/-- **What has been read** is a wildcard with a text behind it that the loose rules
leave open, or it is a name or the bound of a wildcard. -/
theorem sentence_or_hasBody (done : read text = .ok t) (flawless : t.flaw? = none) :
    Sentence .loose text ∨
      ∃ body b, HasBody body text ∧ wildcardOf? (Text.trim body) = none ∧ read body = .ok b ∧
        b.flaw? = none ∧ b.args = t.args := by
  cases marked : wildcardOf? (Text.trim text) with
  | none => exact .inr ⟨text, t, .bare, marked, done, flawless, rfl⟩
  | some found =>
      obtain ⟨w, bound⟩ := found
      obtain ⟨rest, mark, ⟨form, rfl, behind⟩ | ⟨rfl, -, noWord⟩⟩ := wildcardOf?_cases marked
      · by_cases nested : (Text.trim bound).head? = some '?'
        · refine .inl (.anything mark fun form' body behind' => ?_)
          rwa [← word_append_inj (behind.symm.trans behind')]
        · have unmarked := wildcardOf?_eq_none_iff.mpr nested
          rw [read_of_wildcard marked] at done
          cases inner : read bound with
          | error cause =>
              rw [inner] at done
              cases done
          | ok b =>
              rw [inner] at done
              cases done
              refine .inr ⟨bound, b, .bound form mark behind, unmarked, inner, ?_, rfl⟩
              exact (flaw?_bound form (wildcard_eq_none_of_read unmarked inner)).mp flawless
      · exact .inl (.anything mark fun form body behind => absurd behind (noWord form body))

/-- **What is accepted** is a loose sentence. -/
theorem sentence_of_read (done : read text = .ok t) (flawless : t.flaw? = none) :
    Sentence .loose text := by
  induction t using inductionOn generalizing text with
  | node t ih =>
      rcases sentence_or_hasBody done flawless with sentence | ⟨body, b, behind, unmarked, inner,
        innerFlawless, sameArgs⟩
      · exact sentence
      · obtain ⟨node, args⟩ := flaw?_eq_none_iff.mp innerFlawless
        have visible : b.wildcard ≠ some .unbounded := by
          rw [wildcard_eq_none_of_read unmarked inner]
          nofun
        rcases read_cases inner with ⟨w, bound, c, marked, -, -⟩ | ⟨-, -, rfl⟩ |
          ⟨-, name, arguments, trailing, segments, ts, cut, balanced, together, rfl⟩
        · rw [unmarked] at marked
          cases marked
        · exact .name behind ((nodeFlaw_eq_none_iff_isName body visible
            (toList_qualifiedName_ofName body)).mp node)
        · obtain ⟨closing, some, rfl, last⟩ := exists_of_splitArguments balanced
          have noClosing := (Bracketing.not_mem_of_eq_generic cut).2
          rw [Bracketing.of_eq_generic cut] at behind
          refine .generic behind ((nodeFlaw_eq_none_iff_isName name visible
            (toList_qualifiedName_ofName name)).mp node) some ?_ last noClosing
          intro s member
          obtain ⟨a, found, here⟩ := exists_mem_of_readAll together s member
          refine ih a ?_ here (args a found)
          rwa [← sameArgs]

end TypeRef

/-- **Lenient sentences are accepted.** -/
theorem Sentence.accepted {text : List Char} (sentence : Sentence .lenient text) :
    TypeRef.Accepted text := by
  induction sentence with
  | @anything text rest marked after =>
      have nothing := Text.trim_eq_nil_iff.mpr after
      have noWord : ∀ (form : BoundForm) (bound : List Char),
          Text.trim rest ≠ form.word.toList ++ bound := by
        intro form bound worded
        rw [nothing] at worded
        cases form with
        | upper => cases worded
        | lower => cases worded
      have found := TypeRef.wildcardOf?_of_forall_ne noWord
      rw [← marked, nothing] at found
      have whole := TypeRef.read_of_wildcard found
      rw [TypeRef.read_nil] at whole
      refine ⟨_, whole, ?_⟩
      rfl
  | name behind named =>
      obtain ⟨t, done, bare, flawless⟩ :=
        TypeRef.exists_read_of_isName (named.mono (fun _ => And.right) fun _ => id)
      exact TypeRef.accepted_of_hasBody behind done bare flawless
  | @generic text front trailing args closing behind named some each last after ih =>
      have loose : IsName TypeRules.loose.Segment IsBracketRun front :=
        named.mono (fun _ => And.right) fun _ => isBracketRun_of_isBlankText
      have noClosing : '>' ∉ trailing := by
        intro member
        rcases IsBracketRun.mem after member with never | never | never
        · exact absurd never (by decide)
        · exact absurd never (by decide)
        · exact absurd never (by decide)
      have closed := isClosed_arguments (fun a member => (each a member).isClosed) last
      obtain ⟨t, done, bare, flawless⟩ := TypeRef.exists_read_of_generic loose noClosing some
        closed last (fun a member => (each a member).not_isBlankText) ih
      exact TypeRef.accepted_of_hasBody behind done bare flawless

/-! ### Types in a manifest -/

theorem TypeRef.readNamed_eq_ok_iff {spec : String} {t : TypeRef} :
    TypeRef.readNamed spec = .ok t ↔
      ¬ Text.isBlankText spec.toList = true ∧ TypeRef.parse spec = .ok t ∧ t.flaw? = none := by
  rw [TypeRef.readNamed]
  split
  · next blank => exact ⟨nofun, fun all => absurd blank all.1⟩
  · next visible =>
      cases TypeRef.parse spec with
      | error cause => exact ⟨nofun, fun all => nomatch all.2.1⟩
      | ok u =>
          dsimp only
          cases flawless : u.flaw? with
          | some flaw =>
              refine ⟨nofun, fun all => ?_⟩
              cases all.2.1
              rw [flawless] at all
              cases all.2.2
          | none =>
              refine ⟨fun done => ?_, fun all => ?_⟩
              · cases done
                exact ⟨visible, rfl, flawless⟩
              · cases all.2.1
                rfl

/-- A specification without question mark and angle brackets is a name, which may have a
flaw. -/
theorem TypeRef.readNamed_of_plain {spec : String}
    (visible : Text.isBlankText spec.toList = false)
    (unmarked : wildcardOf? (Text.trim spec.toList) = none) (noOpening : '<' ∉ spec.toList) :
    readNamed spec =
      match TypeNode.flaw?
        { TypeNode.ofName spec.toList with isArray := endsInBracket spec.toList } with
      | some flaw => .error flaw
      | none => .ok
        { TypeNode.ofName spec.toList with args := [], isArray := endsInBracket spec.toList } := by
  rw [readNamed, visible, if_neg Bool.false_ne_true, parse,
    read_of_plain unmarked (Bracketing.of_of_not_mem noOpening)]
  dsimp only
  rw [flaw?, flawInAll?]
  cases TypeNode.flaw?
    { TypeNode.ofName spec.toList with isArray := endsInBracket spec.toList } with
  | some flaw => rfl
  | none => rfl

namespace PlanSite

variable {spec role : String} {t : TypeRef}

theorem readType_eq_ok_iff {site : PlanSite} :
    site.readType spec role = .ok t ↔ TypeRef.readNamed spec = .ok t := by
  rw [readType]
  cases TypeRef.readNamed spec with
  | ok u =>
      refine ⟨fun done => ?_, fun done => ?_⟩
      · cases done
        rfl
      · cases done
        rfl
  | error flaw => exact ⟨nofun, nofun⟩

/-- **The types of a manifest.**  A specification that keeps to the lenient rules is
accepted as the reference that it reads as.  What is accepted is not blank, and keeps
to the loose rules. -/
theorem readType_sentence (site : PlanSite) (spec role : String) :
    (Sentence .lenient spec.toList →
      ∃ t, site.readType spec role = .ok t ∧ TypeRef.parse spec = .ok t) ∧
    ∀ t, site.readType spec role = .ok t →
      ¬ Text.isBlankText spec.toList = true ∧ Sentence .loose spec.toList := by
  constructor
  · intro sentence
    obtain ⟨t, done, flawless⟩ := sentence.accepted
    refine ⟨t, readType_eq_ok_iff.mpr (TypeRef.readNamed_eq_ok_iff.mpr ?_), done⟩
    exact ⟨sentence.not_isBlankText, done, flawless⟩
  · intro t done
    obtain ⟨visible, parsed, flawless⟩ :=
      TypeRef.readNamed_eq_ok_iff.mp (readType_eq_ok_iff.mp done)
    exact ⟨visible, TypeRef.sentence_of_read parsed flawless⟩

theorem isBracketRun_opening : IsBracketRun ['['] where
  first := by
    intro c member
    exact (Option.mem_some_iff.mp member).symm
  only := List.all_eq_true.mp (by decide)

/-- A map with a wildcard and a blank last argument, and a bracket behind it. -/
theorem lenient_map : Sentence .lenient "Map<K, ?, >[".toList := by
  have behind : HasBody (['M', 'a', 'p'] ++ '<' ::
      ([','].intercalate ([['K'], [' ', '?']] ++ [[' ']]) ++ '>' :: ['[']))
      "Map<K, ?, >[".toList := .bare
  refine .generic behind ?_ (by decide) ?_ (.inr ⟨[' '], by decide, rfl⟩) ?_
  · exact ⟨[['M', 'a', 'p']], [], by decide, by decide,
      List.forall_mem_singleton.mpr ⟨by decide, by decide⟩, rfl⟩
  · refine List.forall_mem_cons.mpr ⟨?_, List.forall_mem_singleton.mpr ?_⟩
    · refine .name .bare ⟨[['K']], [], by decide, by decide,
        List.forall_mem_singleton.mpr ⟨by decide, by decide⟩, ?_⟩
      exact isBracketRun_of_isBlankText rfl
    · have marked : Text.trim [' ', '?'] = '?' :: [] := by decide
      exact .anything marked rfl
  · exact isBracketRun_opening

theorem readType_sentence_map :
    (∃ t, (⟨"", "jgen.toml", []⟩ : PlanSite).readType "Map<K, ?, >[" "field" = .ok t) ∧
      Sentence .loose "Map<K, ?, >[".toList := by
  obtain ⟨accepted, keeps⟩ :=
    readType_sentence ⟨"", "jgen.toml", []⟩ "Map<K, ?, >[" "field"
  obtain ⟨t, done, -⟩ := accepted lenient_map
  exact ⟨⟨t, done⟩, (keeps t done).2⟩

/-- **The strict rules are not those of the manifest.**  A bracket without its partner
is accepted, and a pair of brackets with a tabulator in between is not. -/
theorem readType_not_strict :
    ((∃ t, (⟨"", "jgen.toml", []⟩ : PlanSite).readType "int[" "field" = .ok t) ∧
      ¬ Sentence .strict "int[".toList) ∧
    (∀ t, (⟨"", "jgen.toml", []⟩ : PlanSite).readType "int[\t]" "field" ≠ .ok t) ∧
      Sentence .strict "int[\t]".toList := by
  refine ⟨⟨?_, fun strict => ?_⟩, fun t done => ?_, ?_⟩
  · have lenient : Sentence .lenient "int[".toList :=
      .name .bare ⟨[['i', 'n', 't']], ['['], by decide, by decide,
        List.forall_mem_singleton.mpr ⟨by decide, by decide⟩, isBracketRun_opening⟩
    obtain ⟨t, done, flawless⟩ := lenient.accepted
    exact ⟨t, readType_eq_ok_iff.mpr (TypeRef.readNamed_eq_ok_iff.mpr
      ⟨lenient.not_isBlankText, done, flawless⟩)⟩
  · exact absurd strict.count_brackets_eq (by decide)
  · obtain ⟨-, parsed, flawless⟩ := TypeRef.readNamed_eq_ok_iff.mp (readType_eq_ok_iff.mp done)
    have unmarked : TypeRef.wildcardOf? (Text.trim "int[\t]".toList) = none := by decide
    have noOpening : '<' ∉ "int[\t]".toList := by decide
    cases (TypeRef.read_of_plain unmarked (Bracketing.of_of_not_mem noOpening)).symm.trans parsed
    have node := (TypeRef.flaw?_eq_none_iff.mp flawless).1
    exact absurd node (by decide)
  · exact .name .bare ⟨[['i', 'n', 't']], ['[', '\t', ']'], by decide, by decide,
      List.forall_mem_singleton.mpr ⟨by decide, by decide⟩, ⟨1, by decide⟩⟩

end PlanSite

end JavaScaffold
