import JavaScaffold.Proofs.Manifest.Problems
import JavaScaffold.Proofs.Text.Occurrence

/-!
# Where the problems of a manifest are shown

A problem with a name or a type is shown at the text of it.  The text is searched for in
the whole source, since nobody knows any more where the name or the type has been read.

## Main Definitions

* `quotedText`, `OccursQuoted` — a text between two equal quotes
* `Text.Span.IsBetween`, `Text.Span.IsQuoted` — a stretch of bytes between two equal quotes
* `Locates` — a place that is as good an answer as the source has
* `Fault.text?` — the name or the type that a problem is about

## Main Statements

* `PlanSite.locates_find?` — the search for a text in a source
* `PlanSite.locates_of_problem?` — a failing check shows the text that is checked
* `ManifestPlan.accept_locates` — the places of the problems of a refused manifest

## Design Notes

A check knows its text twice: it reports one, and searches for one.  That both are the same
is a fact about each kind of check.  That all of them are searched for in the same source
is a fact about the way down, where a site is changed at every declaration.
-/

namespace JavaScaffold

open Text

variable {source text : String} {quote : Char} {span : Span}

/-! ### Quotes -/

/-- The quotes that a text may stand between. -/
def quotes : List Char :=
  ['"', '\'']

/-- The text `text` between two `quote`s. -/
def quotedText (quote : Char) (text : String) : String :=
  String.singleton quote ++ text ++ String.singleton quote

/-- The text `text` stands in `source` **between two equal quotes**. -/
def OccursQuoted (text source : String) : Prop :=
  ∃ quote ∈ quotes, Occurs (quotedText quote text) source

theorem toList_quotedText (quote : Char) (text : String) :
    (quotedText quote text).toList = quote :: text.toList ++ [quote] := by
  rw [quotedText, String.toList_append, String.toList_append, String.toList_singleton]
  rfl

/-- A quote is a single byte. -/
theorem utf8ByteSize_of_mem_quotes (member : quote ∈ quotes) :
    (String.singleton quote).utf8ByteSize = 1 := by
  rw [quotes, List.mem_cons, List.mem_singleton] at member
  rcases member with rfl | rfl
  · rfl
  · rfl

/-- What stands between quotes stands in the source. -/
theorem OccursQuoted.occurs (quoted : OccursQuoted text source) : Occurs text source := by
  obtain ⟨quote, -, inside⟩ := quoted
  exact (((Occurs.refl text).atEnd _).inFront _).trans inside

/-- **The stretch `span` of `source`** is the text `text` between two `quote`s. -/
def Text.Span.IsBetween (quote : Char) (span : Span) (source text : String) : Prop :=
  ∃ front back, source = front ++ quotedText quote text ++ back ∧
    span = ⟨(front ++ String.singleton quote).utf8ByteSize, text.utf8ByteSize⟩

/-- The stretch `span` of `source` is the text `text` between two equal quotes. -/
def Text.Span.IsQuoted (span : Span) (source text : String) : Prop :=
  ∃ quote ∈ quotes, span.IsBetween quote source text

/-- A stretch between quotes is the text, without the quotes. -/
theorem Text.Span.IsQuoted.marks (quoted : span.IsQuoted source text) :
    span.Marks source text := by
  obtain ⟨quote, -, front, back, rfl, rfl⟩ := quoted
  have regrouped : front ++ quotedText quote text ++ back =
      front ++ String.singleton quote ++ text ++ (String.singleton quote ++ back) := by
    simp only [quotedText, String.append_assoc]
  rw [regrouped]
  exact marks_of_append _ text _

/-! ### The search -/

/-- **The place `found` is an answer** to the question where `text` stands in `source`.
There is one when the text is not empty and stands there at all, it is the text, and it is
one between quotes if the text has such a place. -/
structure Locates (source text : String) (found : Option Span) : Prop where
  isSome_iff : found.isSome ↔ text ≠ "" ∧ Occurs text source
  marks : ∀ span, found = some span → span.Marks source text
  quoted : ∀ span, found = some span → OccursQuoted text source → span.IsQuoted source text

namespace PlanSite

theorem spanBetween?_eq_none_iff :
    spanBetween? quote text.toList source.toList = none ↔
      ¬ Occurs (quotedText quote text) source := by
  rw [spanBetween?, Option.map_eq_none_iff, before?_eq_none_iff, Occurs, toList_quotedText]

theorem isQuoted_of_spanBetween? (member : quote ∈ quotes)
    (found : spanBetween? quote text.toList source.toList = some span) :
    span.IsQuoted source text := by
  obtain ⟨front, place, rfl⟩ := Option.map_eq_some_iff.mp found
  obtain ⟨back, split⟩ := exists_append_of_before? place
  rw [← toList_quotedText] at split
  refine ⟨quote, member, _, _, eq_append_of_toList split, ?_⟩
  rw [byteSize_eq, byteSize_toList, String.utf8ByteSize_append, utf8ByteSize_of_mem_quotes member]

/-- The empty text is shown nowhere. -/
theorem find?_empty (site : PlanSite) : site.find? "" = none := rfl

/-- **The three stages of a search**: between double quotes, between single quotes, and
anywhere. -/
theorem find?_of_ne_empty (site : PlanSite) (given : text ≠ "") :
    site.find? text =
      ((spanBetween? '"' text.toList site.source.toList).or
        (spanBetween? '\'' text.toList site.source.toList)).or
          (spanOf? text.toList site.source.toList) := by
  have some : text.toList.isEmpty = false := by
    rwa [List.isEmpty_eq_false_iff, Ne, String.toList_eq_nil_iff]
  rw [find?, spanIn?, some, if_neg Bool.false_ne_true]
  cases spanBetween? '"' text.toList site.source.toList <;>
    cases spanBetween? '\'' text.toList site.source.toList <;> rfl

/-- What the first two stages find. -/
theorem quoted_stages (source text : String) :
    let stages := (spanBetween? '"' text.toList source.toList).or
      (spanBetween? '\'' text.toList source.toList)
    (stages = none ↔ ¬ OccursQuoted text source) ∧
      ∀ span, stages = some span → span.IsQuoted source text := by
  intro stages
  constructor
  · rw [Option.or_eq_none_iff, spanBetween?_eq_none_iff, spanBetween?_eq_none_iff]
    simp [OccursQuoted, quotes]
  · intro span found
    rcases Option.or_eq_some_iff.mp found with double | ⟨-, single⟩
    · exact isQuoted_of_spanBetween? (by decide) double
    · exact isQuoted_of_spanBetween? (by decide) single

/-- **The search for a text** answers where it stands in the source. -/
theorem locates_find? (site : PlanSite) (text : String) :
    Locates site.source text (site.find? text) := by
  by_cases empty : text = ""
  · subst empty
    rw [find?_empty]
    exact ⟨by simp, nofun, nofun⟩
  · obtain ⟨missed, hit⟩ := quoted_stages site.source text
    rw [site.find?_of_ne_empty empty]
    cases stages : (spanBetween? '"' text.toList site.source.toList).or
        (spanBetween? '\'' text.toList site.source.toList) with
    | some span =>
        have quoted := hit span stages
        have occurs : OccursQuoted text site.source := by
          by_contra absent
          exact nomatch stages.symm.trans (missed.mpr absent)
        rw [Option.some_or]
        refine ⟨by simp [empty, occurs.occurs], ?_, ?_⟩
        · rintro _ ⟨⟩
          exact quoted.marks
        · rintro _ ⟨⟩ -
          exact quoted
    | none =>
        -- Nothing stands between quotes, so any place will do.
        have absent := missed.mp stages
        rw [Option.none_or]
        refine ⟨?_, fun span found => marks_of_spanOf? found,
          fun span _ occurs => (absent occurs).elim⟩
        rw [Option.isSome_iff_ne_none, Ne, spanOf?_eq_none_iff, not_not]
        exact (and_iff_right empty).symm

end PlanSite

/-! ### Failing checks -/

/-- **The text that a fault is about**: a name or a type.  A broken rule is about several
texts. -/
def Fault.text? : Fault → Option String
  | .invalidType spec _ _ => some spec
  | .rule _ => none
  | .reservedWord name _ => some name
  | .invalidIdentifier name _ _ => some name

/-- **A failing check** is shown at the text that it is about. -/
theorem PlanSite.locates_of_problem? {site : PlanSite} {check : Check} {problem : Diagnostic}
    (fails : site.problem? check = some problem) (about : problem.fault.text? = some text) :
    Locates site.source text problem.span := by
  cases check with
  | name name role allowReserved =>
      rw [problem?, checkName] at fails
      split at fails
      · cases fails
        cases about
        exact site.locates_find? _
      · split at fails
        · cases fails
          cases about
          exact site.locates_find? _
        · cases fails
  | type spec role =>
      rw [problem?, readType] at fails
      split at fails
      · cases fails
      · cases fails
        cases about
        exact site.locates_find? _
  | rule holds message needle =>
      cases holds with
      | true => cases fails
      | false =>
          cases fails
          cases about

/-! ### One source -/

variable {α : Type} {g : CheckGroup} {groups others : List CheckGroup}

/-- All checks of the groups are about texts of `source`. -/
def ReadFrom (source : String) (groups : List CheckGroup) : Prop :=
  ∀ g ∈ groups, g.site.source = source

namespace ReadFrom

theorem nil : ReadFrom source [] :=
  nofun

theorem cons (here : g.site.source = source) (rest : ReadFrom source groups) :
    ReadFrom source (g :: groups) :=
  List.forall_mem_cons.mpr ⟨here, rest⟩

theorem append (first : ReadFrom source groups) (second : ReadFrom source others) :
    ReadFrom source (groups ++ others) :=
  List.forall_mem_append.mpr ⟨first, second⟩

theorem headed (here : g.site.source = source) (rest : ReadFrom source groups) :
    ReadFrom source (headed g groups) := by
  rw [JavaScaffold.headed]
  split
  · exact cons here rest
  · exact cons here nil

/-- One group for each item of a list. -/
theorem map (site : PlanSite) (checks : α → List Check) (as : List α) :
    ReadFrom site.source (as.map fun a => ⟨site, checks a⟩) := by
  intro g member
  obtain ⟨a, -, rfl⟩ := List.mem_map.mp member
  rfl

theorem flatMapAfter {name : α → String} {f : List String → α → List CheckGroup}
    (each : ∀ earlier a, ReadFrom source (f earlier a)) (earlier : List String) (as : List α) :
    ReadFrom source (flatMapAfter name f earlier as) := by
  induction as generalizing earlier with
  | nil => exact nil
  | cons a as ih => exact (each earlier a).append (ih _)

end ReadFrom

theorem DeclPlan.readFrom_groups (site : PlanSite) (declared : String) (p : DeclPlan) :
    ReadFrom site.source (p.groups site declared) := by
  refine .append (.append (.append (.append (.append (.append (.append (.append ?_ ?_) ?_) ?_) ?_)
    ?_) ?_) ?_) ?_
  · exact .map site _ p.typeParams
  · exact .map site _ p.superClass.toList
  · exact .map site _ p.interfaces
  · exact .headed rfl (.map site _ p.constants)
  · exact .headed rfl (.map site _ p.components)
  · refine .flatMapAfter (fun earlier f => ?_) [] p.fields
    exact .cons rfl .nil
  · exact .cons rfl .nil
  · exact .map site _ p.methods
  · exact .cons rfl .nil

namespace UnitPlan

mutual

/-- The way down to a nested declaration does not leave the source. -/
theorem readFrom_groups (type : TypeRef) (site : PlanSite) :
    (u : UnitPlan) → ReadFrom site.source (u.groups type site)
  | ⟨p, nested⟩ => by
    rw [groups]
    exact (p.readFrom_groups site type.innerName).append (readFrom_nestedGroups type site [] nested)

theorem readFrom_nestedGroups (outer : TypeRef) (site : PlanSite) (earlier : List String) :
    (us : List UnitPlan) → ReadFrom site.source (nestedGroups outer site earlier us)
  | [] => by
    rw [nestedGroups]
    exact .nil
  | u :: us => by
    rw [nestedGroups]
    refine .append (.headed rfl (.cons rfl ?_)) (readFrom_nestedGroups outer site _ us)
    exact readFrom_groups (outer.nested u.nestedName) (site.inside u.nestedName) u

end

theorem readFrom_fileGroups (site : PlanSite) (p : UnitPlan) :
    ReadFrom site.source (p.fileGroups site) := by
  refine .headed rfl ?_
  split
  · exact .nil
  · exact (p.readFrom_groups _ (site.inside p.type)).append (.map (site.inside p.type) _ p.imports)

end UnitPlan

/-! ### Manifests -/

namespace ManifestPlan

theorem readFrom_groups (site : PlanSite) (m : ManifestPlan) :
    ReadFrom site.source (m.groups site) := by
  refine .flatMapAfter (fun earlier p => ?_) [] m.units
  exact .headed rfl (p.readFrom_fileGroups site)

/-- **Problems are shown where they are.**  Among the problems of a refused manifest, each
one about a name or a type has a place exactly when that text is not empty and stands in
the source.  The place is one of the text, and one between quotes if there is such a one. -/
theorem accept_locates (m : ManifestPlan) (site : PlanSite) (e : ManifestError)
    (refused : m.accept site = .error e) :
    ∀ problem ∈ e.diagnostics, ∀ text, problem.fault.text? = some text →
      Locates site.source text problem.span := by
  intro problem member text about
  rw [diagnostics_accept refused, List.mem_filterMap] at member
  obtain ⟨g, listed, found⟩ := member
  obtain ⟨check, -, fails⟩ := List.exists_of_findSome?_eq_some found
  rw [← m.readFrom_groups site g listed]
  exact PlanSite.locates_of_problem? fails about

/-! A manifest in which the name of the field stands in a comment first, behind letters of
two bytes, and then between quotes. -/

def hastySource : String :=
  "# été: no class\n[[unit]]\ntype = 'com.foo.Flag'\nfield = [\x7bname = 'class', type = 'my-type'\x7d]"

theorem accept_locates_hasty :
    ∃ e, (⟨{}, [hasty]⟩ : ManifestPlan).accept ⟨hastySource, "jgen.toml", []⟩ = .error e ∧
      (∃ problem ∈ e.diagnostics, problem.fault.text? = some "class") ∧
      ∀ problem ∈ e.diagnostics, ∀ text, problem.fault.text? = some text →
        Locates hastySource text problem.span := by
  have problems := filterMap_groups_singleton {} hasty_isNamed ⟨hastySource, "jgen.toml", []⟩
  obtain ⟨e, refused⟩ := exists_accept_eq_error (problems.trans_ne (by decide))
  refine ⟨e, refused, ?_, accept_locates _ _ e refused⟩
  rw [diagnostics_accept refused, problems]
  exact ⟨_, List.mem_cons_self, rfl⟩

example : PlanSite.find? ⟨hastySource, "jgen.toml", []⟩ "class" = some ⟨67, 5⟩ := by decide

end ManifestPlan

end JavaScaffold
