import JavaScaffold.File.Map
import JavaScaffold.Manifest.Basic
import Mathlib.Data.List.Induction

/-!
# What a manifest leaves behind

A manifest writes one file after the other, and whether a file is kept depends on what the
files before it have left.  In a plain map no write fails, so a run comes down to two
things: the map behind it, and a log of the files with what became of each.

## Main Definitions

* `File.outcome`, `FileMap.after` — what becomes of a file, and of the map
* `FileMap.log`, `FileMap.afterAll` — the same for some files, one after the other
* `File.settle` — what a file makes of the text at one path
* `Manifest.diskBefore` — the map at the moment at which a file is written

## Main Statements

* `FileMap.get?_afterAll` — each path of the map is settled on its own
* `Manifest.generate_eq` — a run of a manifest is the log of its files
* `Manifest.generate_refines_preview` — files are written as they are shown, and a second
  run changes nothing

## Design Notes

Two files can have the same path.  What a path holds in the end is still decided at that
path alone: by the texts for it and their rules, in order.  A second run gives nothing new
whatever the rules are, because the last text that replaces everything decides both times,
and without such a text whatever is there first stays.
-/

namespace JavaScaffold

/-! ### One file -/

namespace File

variable {f : File} {held : Option String}

/-- What becomes of a file where the text `held` is at its path, if any is there. -/
def outcome (f : File) (held : Option String) : WriteOutcome :=
  if f.overwrite = .ifMissing ∧ held.isSome then .skipped else .written

theorem outcome_eq_skipped_iff :
    f.outcome held = .skipped ↔ f.overwrite = .ifMissing ∧ held.isSome := by
  rw [outcome]
  split
  · next kept => exact iff_of_true rfl kept
  · next fresh => exact iff_of_false nofun fresh

/-- The text at the path `path` once a file has been written or kept. -/
def settle (path : String) (held : Option String) (f : File) : Option String :=
  if f.path = path ∧ f.outcome held = .written then some f.content else held

theorem settle_of_written {path : String} (here : f.path = path)
    (written : f.outcome held = .written) : f.settle path held = some f.content :=
  if_pos ⟨here, written⟩

theorem settle_of_skipped (path : String) (skipped : f.outcome held = .skipped) :
    f.settle path held = held :=
  if_neg fun both => nomatch both.2.symm.trans skipped

theorem settle_of_ne {path : String} (elsewhere : f.path ≠ path) (held : Option String) :
    f.settle path held = held :=
  if_neg fun both => elsewhere both.1

/-- Once a file has been written or kept, there is a text at its path. -/
theorem isSome_settle (f : File) (held : Option String) : (f.settle f.path held).isSome := by
  cases answer : f.outcome held with
  | written => rw [settle_of_written rfl answer, Option.isSome_some]
  | skipped =>
      rw [settle_of_skipped f.path answer]
      exact (outcome_eq_skipped_iff.mp answer).2

end File

namespace FileMap

variable {disk : FileMap} {f : File} {files : List File} {path : String}

/-- The map once a file has been written or kept. -/
def after (disk : FileMap) (f : File) : FileMap :=
  match f.outcome (disk.get? f.path) with
  | .written => disk.insert f.path f.content
  | .skipped => disk

theorem write_eq_after (f : File) (disk : FileMap) :
    f.write disk = (disk.after f, .ok (f.outcome (disk.get? f.path))) := by
  rw [write_eq, after, File.outcome]
  split <;> rfl

/-- **Each path is settled on its own.** -/
theorem get?_after (disk : FileMap) (f : File) (path : String) :
    (disk.after f).get? path = f.settle path (disk.get? path) := by
  rw [after, File.settle]
  by_cases here : f.path = path
  · subst here
    cases f.outcome (disk.get? f.path) <;> simp
  · rw [if_neg fun both => here both.1]
    cases f.outcome (disk.get? f.path) with
    | written => exact (get?_insert ..).trans (if_neg (Ne.symm here))
    | skipped => rfl

/-! ### Files one after the other -/

/-- The map once some files have been written or kept, in order. -/
def afterAll (disk : FileMap) (files : List File) : FileMap :=
  files.foldl after disk

/-- Some files with what becomes of each of them, in order. -/
def log (disk : FileMap) : List File → List (File × WriteOutcome)
  | [] => []
  | f :: files => (f, f.outcome (disk.get? f.path)) :: log (disk.after f) files

@[simp] theorem afterAll_cons (disk : FileMap) (f : File) (files : List File) :
    disk.afterAll (f :: files) = (disk.after f).afterAll files := rfl

@[simp] theorem map_fst_log (disk : FileMap) (files : List File) :
    (disk.log files).map Prod.fst = files := by
  induction files generalizing disk with
  | nil => rfl
  | cons f files ih => rw [log, List.map_cons, ih]

theorem mem_of_mem_log {e : File × WriteOutcome} (entry : e ∈ disk.log files) : e.1 ∈ files := by
  rw [← disk.map_fst_log files]
  exact List.mem_map_of_mem entry

theorem get?_afterAll (disk : FileMap) (files : List File) (path : String) :
    (disk.afterAll files).get? path = files.foldl (File.settle path) (disk.get? path) := by
  induction files generalizing disk with
  | nil => rfl
  | cons f files ih => rw [afterAll_cons, ih, get?_after, List.foldl_cons]

/-- An outcome in the log is decided by the map at that moment. -/
theorem outcome_of_log {k : Nat} {e : File × WriteOutcome}
    (entry : (disk.log files)[k]? = some e) :
    e.2 = e.1.outcome ((disk.afterAll (files.take k)).get? e.1.path) := by
  induction files generalizing disk k with
  | nil => cases entry
  | cons f files ih =>
      cases k with
      | zero =>
          cases entry
          rfl
      | succ k => exact ih entry

/-- **What is not written** stays as it was. -/
theorem get?_afterAll_of_other
    (other : ∀ e ∈ disk.log files, e.2 = .written → e.1.path ≠ path) :
    (disk.afterAll files).get? path = disk.get? path := by
  induction files generalizing disk with
  | nil => rfl
  | cons f files ih =>
      rw [afterAll_cons, ih fun e member => other e (List.mem_cons_of_mem _ member), get?_after,
        File.settle, if_neg]
      rintro ⟨rfl, written⟩
      exact other _ List.mem_cons_self written rfl

/-- **What is written last** at a path is there in the end. -/
theorem get?_afterAll_of_written {front back : List (File × WriteOutcome)}
    (entries : disk.log files = front ++ (f, .written) :: back)
    (last : ∀ e ∈ back, e.2 = .written → e.1.path ≠ f.path) :
    (disk.afterAll files).get? f.path = some f.content := by
  induction files generalizing disk front with
  | nil => simp [log] at entries
  | cons g files ih =>
      rw [log] at entries
      cases front with
      | nil =>
          obtain ⟨same, rfl⟩ := List.cons.inj entries
          obtain ⟨rfl, written⟩ := Prod.mk.inj same
          rw [afterAll_cons, get?_afterAll_of_other last, get?_after, File.settle,
            if_pos ⟨rfl, written⟩]
      | cons e front => exact ih (List.cons.inj entries).2

/-! ### A second run -/

/-- A path stays occupied. -/
theorem isSome_foldl_settle {held : Option String} (occupied : held.isSome) :
    (files.foldl (File.settle path) held).isSome := by
  induction files generalizing held with
  | nil => exact occupied
  | cons f files ih =>
      refine ih ?_
      rw [File.settle]
      split
      · rfl
      · exact occupied

/-- The path of each file is occupied in the end. -/
theorem isSome_foldl_settle_of_mem (member : f ∈ files) (held : Option String) :
    (files.foldl (File.settle f.path) held).isSome := by
  obtain ⟨before, back, rfl⟩ := List.append_of_mem member
  rw [List.foldl_append, List.foldl_cons]
  exact isSome_foldl_settle (f.isSome_settle _)

/-- Files for other paths leave a path alone. -/
theorem foldl_settle_of_absent (absent : ∀ f ∈ files, f.path ≠ path) (held : Option String) :
    files.foldl (File.settle path) held = held := by
  induction files with
  | nil => rfl
  | cons f files ih =>
      rw [List.foldl_cons, File.settle_of_ne (absent f List.mem_cons_self)]
      exact ih fun g member => absent g (List.mem_cons_of_mem _ member)

/-- **A path is settled by one run.**  The induction takes the last file away: what it found
in the first run it finds again in the second one, or it replaces everything anyway. -/
theorem foldl_settle_foldl_settle (files : List File) (path : String) (held : Option String) :
    files.foldl (File.settle path) (files.foldl (File.settle path) held) =
      files.foldl (File.settle path) held := by
  induction files using List.reverseRecOn with
  | nil => rfl
  | append_singleton files f ih =>
      simp only [List.foldl_append, List.foldl_cons, List.foldl_nil]
      by_cases here : f.path = path
      · cases answer : f.outcome (files.foldl (File.settle path) held) with
        | skipped => rw [File.settle_of_skipped path answer, ih, File.settle_of_skipped path answer]
        | written =>
            rw [File.settle_of_written here answer]
            cases again : f.outcome (files.foldl (File.settle path) (some f.content)) with
            | written => exact File.settle_of_written here again
            | skipped =>
                rw [File.settle_of_skipped path again]
                -- The file was written because the path was free, so no other file is for it.
                have rule := (File.outcome_eq_skipped_iff.mp again).1
                refine foldl_settle_of_absent (fun g member belongs => ?_) _
                have occupied := isSome_foldl_settle_of_mem member held
                rw [belongs] at occupied
                cases answer.symm.trans (File.outcome_eq_skipped_iff.mpr ⟨rule, occupied⟩)
      · simp only [File.settle_of_ne here, ih]

/-- A second run changes nothing. -/
theorem get?_afterAll_afterAll (disk : FileMap) (files : List File) (path : String) :
    ((disk.afterAll files).afterAll files).get? path = (disk.afterAll files).get? path := by
  simp only [get?_afterAll, foldl_settle_foldl_settle]

/-- A second run keeps every file that may be kept. -/
theorem outcome_of_log_afterAll (keeps : ∀ f ∈ files, f.overwrite = .ifMissing)
    {e : File × WriteOutcome} (entry : e ∈ (disk.afterAll files).log files) : e.2 = .skipped := by
  have file := mem_of_mem_log entry
  obtain ⟨k, place⟩ := List.mem_iff_getElem?.mp entry
  rw [outcome_of_log place]
  refine File.outcome_eq_skipped_iff.mpr ⟨keeps e.1 file, ?_⟩
  rw [get?_afterAll, get?_afterAll]
  exact isSome_foldl_settle (isSome_foldl_settle_of_mem file _)

end FileMap

/-! ### Manifests -/

namespace Manifest

theorem writeAll_eq (base : String) (sources : List UnitSource) (disk : FileMap) :
    writeAll base sources disk =
      (disk.afterAll (sources.map (·.file base)),
        .ok ((disk.log (sources.map (·.file base))).map fun e => (e.1.path, e.2))) := by
  induction sources generalizing disk with
  | nil => rfl
  | cons s sources ih =>
      rw [writeAll, FileMap.write_eq_after]
      dsimp only
      rw [ih]
      rfl

/-- **A run of a manifest** is the log of the files that it shows. -/
theorem generate_eq (manifest : Manifest) (root : String) (disk : FileMap) :
    manifest.generate root disk =
      (disk.afterAll (manifest.preview root),
        .ok ((disk.log (manifest.preview root)).map fun e => (e.1.path, e.2))) :=
  writeAll_eq (manifest.directory root) manifest.sources disk

/-- The map at the moment at which the file number `k` of a manifest is written or kept:
the files before it have been written or kept already. -/
def diskBefore (manifest : Manifest) (root : String) (k : Nat) (disk : FileMap) : FileMap :=
  (writeAll (manifest.directory root) (manifest.sources.take k) disk).1

theorem diskBefore_eq (manifest : Manifest) (root : String) (k : Nat) (disk : FileMap) :
    manifest.diskBefore root k disk = disk.afterAll ((manifest.preview root).take k) := by
  rw [diskBefore, writeAll_eq, preview, List.map_take]

theorem overwrite_of_mem_preview {manifest : Manifest} {root : String} {f : File}
    (shown : f ∈ manifest.preview root) : f.overwrite = manifest.output.overwrite := by
  rw [preview, sources, List.map_map] at shown
  obtain ⟨u, -, rfl⟩ := List.mem_map.mp shown
  rfl

/-- **Files are written as they are shown.**  A run of a manifest reports the files that it
shows, in their order.  A file is kept exactly when the rule is to keep files and its path
is occupied at that moment; otherwise it is written.  In the end each path with a written
file holds the text of the last one written there, and every other path is as it was.
After a second run every path holds the same, and under the rule to keep files all of them
are kept. -/
theorem generate_refines_preview (manifest : Manifest) (root : String) (disk : FileMap) :
    ∃ (after : FileMap) (entries : List (File × WriteOutcome)),
      manifest.generate root disk = (after, .ok (entries.map fun e => (e.1.path, e.2))) ∧
      entries.map Prod.fst = manifest.preview root ∧
      (∀ k f outcome, entries[k]? = some (f, outcome) →
        (outcome = .skipped ↔ manifest.output.overwrite = .ifMissing ∧
          ((manifest.diskBefore root k disk).get? f.path).isSome)) ∧
      (∀ front f back, entries = front ++ (f, .written) :: back →
        (∀ e ∈ back, e.2 = .written → e.1.path ≠ f.path) →
          after.get? f.path = some f.content) ∧
      (∀ path, (∀ e ∈ entries, e.2 = .written → e.1.path ≠ path) →
        after.get? path = disk.get? path) ∧
      ∃ (again : FileMap) (outcomes : List (String × WriteOutcome)),
        manifest.generate root after = (again, .ok outcomes) ∧
        (∀ path, again.get? path = after.get? path) ∧
        (manifest.output.overwrite = .ifMissing → ∀ e ∈ outcomes, e.2 = .skipped) := by
  refine ⟨_, _, manifest.generate_eq root disk, FileMap.map_fst_log _ _, ?_, ?_, ?_, ?_⟩
  · intro k f outcome entry
    have shown := FileMap.mem_of_mem_log (List.mem_of_getElem? entry)
    have decided := FileMap.outcome_of_log entry
    dsimp only at decided
    rw [decided, File.outcome_eq_skipped_iff, overwrite_of_mem_preview shown, diskBefore_eq]
  · intro front f back entries last
    exact FileMap.get?_afterAll_of_written entries last
  · intro path other
    exact FileMap.get?_afterAll_of_other other
  · refine ⟨_, _, manifest.generate_eq root _, FileMap.get?_afterAll_afterAll _ _, ?_⟩
    intro rule e member
    obtain ⟨entry, logged, rfl⟩ := List.mem_map.mp member
    refine FileMap.outcome_of_log_afterAll (fun f shown => ?_) logged
    rw [overwrite_of_mem_preview shown, rule]

end Manifest

end JavaScaffold
