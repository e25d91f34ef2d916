import JavaScaffold.Proofs.Manifest.Files
import JavaScaffold.Proofs.Manifest.Sites

/-!
# Units do not influence each other

A manifest is accepted when its units have different keys and each unit is accepted on its
own.  The file of a unit is then the one that it has on its own, whatever other units there
are, in whatever order they stand and whatever the text is that the manifest is read from.

## Main Definitions

* `UnitPlan.file?` — the file of a unit on its own

## Main Statements

* `ManifestPlan.accept_eq_ok_iff` — a manifest is accepted unit by unit
* `ManifestPlan.accept_unitwise` — manifests with units in common

## Design Notes

The units of a manifest meet in one place only: a unit is told the keys of the units before
it.  Whether a key comes twice does not depend on the order, so neither does the answer.
-/

namespace JavaScaffold

/-! ### Units on their own -/

namespace UnitPlan

variable {comments : List String} {p : UnitPlan} {u : CompilationUnit}

/-- **The file of a unit on its own**, unless something is wrong with the unit.  The site is
that of an empty text. -/
def file? (comments : List String) (p : UnitPlan) : Option CompilationUnit :=
  (p.build comments ⟨"", "", []⟩).value?

/-- At every site a unit has the file that it has on its own. -/
theorem file?_eq_some_iff (site : PlanSite) :
    p.file? comments = some u ↔ p.build comments site = .fine u := by
  have same : p.file? comments = (p.build comments site).value? := p.sameValue_build _ _ comments
  rw [same]
  cases p.build comments site <;> simp [Checked.value?]

end UnitPlan

/-- Where a function gives the items of a list, the pairs are those that it makes. -/
theorem zip_eq_filterMap {α β : Type} {f : α → Option β} {as : List α} {bs : List β}
    (gives : as.map f = bs.map some) :
    as.zip bs = as.filterMap fun a => (f a).map (Prod.mk a) := by
  induction as generalizing bs with
  | nil => rfl
  | cons a as ih =>
      cases bs with
      | nil => cases gives
      | cons b bs =>
          obtain ⟨here, later⟩ := List.cons.inj gives
          rw [List.zip_cons_cons, ih later, List.filterMap_cons_some (b := (a, b))]
          rw [here, Option.map_some]

namespace ManifestPlan

variable {m m' : ManifestPlan} {site site' : PlanSite} {manifest manifest' : Manifest}

/-! ### Manifests unit by unit -/

/-- A unit behind others is built when its key is new and it is built on its own. -/
theorem unit_eq_fine_iff {earlier : List String} {p : UnitPlan} {u : CompilationUnit} :
    m.unit site earlier p = .fine u ↔
      p.key ∉ earlier ∧ p.file? m.output.comments = some u := by
  rw [unit, UnitPlan.file?_eq_some_iff site]
  split
  · next known =>
      refine iff_of_false nofun fun both => both.1 ?_
      rwa [List.contains_iff_mem] at known
  · next fresh =>
      rw [List.contains_iff_mem] at fresh
      rw [and_iff_right fresh]

/-- **Some units behind others** are built when their keys are new and all different, and
each of them is built on its own. -/
theorem allAfter_eq_fine_iff {earlier : List String} {ps : List UnitPlan}
    {us : List CompilationUnit} :
    Checked.allAfter UnitPlan.key (m.unit site) earlier ps = .fine us ↔
      (∀ p ∈ ps, p.key ∉ earlier) ∧ (ps.map UnitPlan.key).Nodup ∧
        ps.map (UnitPlan.file? m.output.comments) = us.map some := by
  induction ps generalizing earlier us with
  | nil => cases us <;> simp [Checked.allAfter]
  | cons p ps ih =>
      rw [Checked.allAfter, Checked.seq_eq, Checked.apply_eq_fine_iff]
      simp only [Checked.map_eq, Checked.map_eq_fine_iff, unit_eq_fine_iff, ih, List.map_cons,
        List.nodup_cons, List.forall_mem_cons]
      constructor
      · rintro ⟨-, rest, ⟨u, ⟨new, here⟩, rfl⟩, ⟨others, apart, later⟩, rfl⟩
        refine ⟨⟨new, fun q member known => ?_⟩, ⟨?_, apart⟩, ?_⟩
        · exact others q member (List.mem_cons_of_mem _ known)
        · intro again
          obtain ⟨q, member, same⟩ := List.mem_map.mp again
          exact others q member (same ▸ List.mem_cons_self)
        · rw [List.map_cons, here, later]
      · rintro ⟨⟨new, others⟩, ⟨once, apart⟩, files⟩
        cases us with
        | nil => cases files
        | cons u us =>
            obtain ⟨here, later⟩ := List.cons.inj files
            refine ⟨_, us, ⟨u, ⟨new, here⟩, rfl⟩, ⟨fun q member => ?_, apart, later⟩, rfl⟩
            rw [List.mem_cons, not_or]
            refine ⟨fun same => once ?_, others q member⟩
            exact List.mem_map.mpr ⟨q, member, same⟩

/-- **A manifest is accepted unit by unit.** -/
theorem accept_eq_ok_iff :
    m.accept site = .ok manifest ↔
      manifest.output = m.output ∧ (m.units.map UnitPlan.key).Nodup ∧
        m.units.map (UnitPlan.file? m.output.comments) = manifest.units.map some := by
  have built (us : List CompilationUnit) : m.build site = .fine us ↔
      (m.units.map UnitPlan.key).Nodup ∧
        m.units.map (UnitPlan.file? m.output.comments) = us.map some := by
    rw [build, allAfter_eq_fine_iff]
    exact and_iff_right fun p _ => List.not_mem_nil
  constructor
  · intro accepted
    obtain ⟨fine, output⟩ := build_of_accept accepted
    exact ⟨output, (built manifest.units).mp fine⟩
  · rintro ⟨output, clean⟩
    rw [accept, (built manifest.units).mpr clean, ← output]

/-- Whether a manifest is accepted depends on each of its units and on their keys. -/
theorem exists_accept_iff :
    (∃ manifest, m.accept site = .ok manifest) ↔
      (m.units.map UnitPlan.key).Nodup ∧
        ∀ p ∈ m.units, (p.file? m.output.comments).isSome := by
  simp only [accept_eq_ok_iff]
  constructor
  · rintro ⟨manifest, -, apart, files⟩
    refine ⟨apart, fun p member => ?_⟩
    have given := List.mem_map_of_mem (f := UnitPlan.file? m.output.comments) member
    rw [files] at given
    obtain ⟨u, -, same⟩ := List.mem_map.mp given
    rw [← same, Option.isSome_some]
  · rintro ⟨apart, given⟩
    refine ⟨⟨m.output, m.units.filterMap (UnitPlan.file? m.output.comments)⟩, rfl, apart, ?_⟩
    rw [List.map_filterMap_some_eq_filter_map_isSome, List.filter_eq_self.mpr]
    intro answer member
    obtain ⟨p, found, rfl⟩ := List.mem_map.mp member
    exact given p found

/-! ### Units in common -/

/-- The files of an accepted manifest, with the units they are for. -/
theorem zip_units_of_accept (accepted : m.accept site = .ok manifest) :
    m.units.zip manifest.units =
      m.units.filterMap fun p => (p.file? m.output.comments).map (Prod.mk p) :=
  zip_eq_filterMap (accept_eq_ok_iff.mp accepted).2.2

/-- In an accepted manifest a unit has the file that it has on its own. -/
theorem file?_of_accept (accepted : m.accept site = .ok manifest) {p : UnitPlan}
    {u : CompilationUnit} (place : (p, u) ∈ m.units.zip manifest.units) :
    p.file? m.output.comments = some u := by
  rw [zip_units_of_accept accepted, List.mem_filterMap] at place
  obtain ⟨q, -, found⟩ := place
  obtain ⟨v, here, same⟩ := Option.map_eq_some_iff.mp found
  cases same
  exact here

/-- **Units do not influence each other.**  Take two manifests that put their files to the
same place, and two sites with any texts.  If the units of one are those of the other in
another order, both manifests are accepted or neither is.  If the first one is accepted, a
manifest with some of its units, in order, is accepted as well.  Whenever both are accepted,
a unit of both has the same file in both; and if the units differ in their order only, so do
the files, and so do their paths and texts. -/
theorem accept_unitwise (m m' : ManifestPlan) (site site' : PlanSite)
    (sameOutput : m.output = m'.output) :
    (m.units.Perm m'.units →
      ((∃ manifest, m.accept site = .ok manifest) ↔
        ∃ manifest', m'.accept site' = .ok manifest')) ∧
    ∀ manifest, m.accept site = .ok manifest →
      manifest.units.length = m.units.length ∧
      (m'.units.Sublist m.units → ∃ manifest', m'.accept site' = .ok manifest') ∧
      ∀ manifest', m'.accept site' = .ok manifest' →
        (∀ p u u', (p, u) ∈ m.units.zip manifest.units →
          (p, u') ∈ m'.units.zip manifest'.units → u = u') ∧
        (m.units.Perm m'.units →
          (m.units.zip manifest.units).Perm (m'.units.zip manifest'.units) ∧
          ∀ root, (m.units.zip (manifest.preview root)).Perm
            (m'.units.zip (manifest'.preview root))) := by
  refine ⟨fun reordered => ?_, fun manifest accepted => ⟨?_, fun fewer => ?_, ?_⟩⟩
  · rw [exists_accept_iff, exists_accept_iff, ← sameOutput, (reordered.map _).nodup_iff]
    simp only [reordered.mem_iff]
  · have lengths := congrArg List.length (accept_eq_ok_iff.mp accepted).2.2
    rw [List.length_map, List.length_map] at lengths
    exact lengths.symm
  · obtain ⟨apart, given⟩ := exists_accept_iff.mp ⟨manifest, accepted⟩
    rw [exists_accept_iff, ← sameOutput]
    exact ⟨apart.sublist (fewer.map _), fun p member => given p (fewer.subset member)⟩
  · intro manifest' accepted'
    refine ⟨fun p u u' place place' => ?_, fun reordered => ?_⟩
    · have here := file?_of_accept accepted place
      have there := file?_of_accept accepted' place'
      rw [← sameOutput] at there
      exact Option.some.inj (here.symm.trans there)
    · have paired : (m.units.zip manifest.units).Perm (m'.units.zip manifest'.units) := by
        rw [zip_units_of_accept accepted, zip_units_of_accept accepted', ← sameOutput]
        exact reordered.filterMap _
      refine ⟨paired, fun root => ?_⟩
      have output := (accept_eq_ok_iff.mp accepted).1
      have output' := (accept_eq_ok_iff.mp accepted').1
      rw [Manifest.preview_eq, Manifest.preview_eq, List.zip_map_right, List.zip_map_right]
      simp only [Manifest.directory, output, output', ← sameOutput]
      exact paired.map _

/-- Two classes in either order. -/
theorem accept_unitwise_swap :
    let m : ManifestPlan := ⟨{}, [{ type := "foo.A" }, { type := "foo.B" }]⟩
    let m' : ManifestPlan := ⟨{}, [{ type := "foo.B" }, { type := "foo.A" }]⟩
    m.output = m'.output ∧ m.units.Perm m'.units ∧
      ∃ manifest manifest', m.accept ⟨"first", "a.toml", []⟩ = .ok manifest ∧
        m'.accept ⟨"second", "b.toml", []⟩ = .ok manifest' ∧
        (m.units.zip manifest.units).Perm (m'.units.zip manifest'.units) := by
  intro m m'
  have reordered : m.units.Perm m'.units := .swap _ _ _
  obtain ⟨either, common⟩ :=
    accept_unitwise m m' ⟨"first", "a.toml", []⟩ ⟨"second", "b.toml", []⟩ rfl
  obtain ⟨manifest, accepted, -⟩ :
      ∃ manifest, m.accept ⟨"first", "a.toml", []⟩ = .ok manifest ∧ manifest.units.length = 2 :=
    exists_eq_ok (by decide +kernel)
  obtain ⟨manifest', accepted'⟩ := (either reordered).mp ⟨manifest, accepted⟩
  obtain ⟨-, -, both⟩ := common manifest accepted
  exact ⟨rfl, reordered, manifest, manifest', accepted, accepted',
    ((both manifest' accepted').2 reordered).1⟩

end ManifestPlan

end JavaScaffold
