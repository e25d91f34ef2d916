import JavaScaffold.File.Basic

/-!
# Files in a plain map

The simplest storage: a finite map from paths to texts, where nothing stands in the way of a write.

## Main Definitions

* `FileMap` — the map
* `FileMap.get?`, `FileMap.insert` — its two operations
-/

namespace JavaScaffold

/-- A finite map from paths to texts. -/
structure FileMap where
  entries : List (String × String) := []

namespace FileMap

/-- The text at a path. -/
def get? (m : FileMap) (path : String) : Option String :=
  m.entries.lookup path

/-- The map with a text at a path. -/
def insert (m : FileMap) (path content : String) : FileMap :=
  ⟨(path, content) :: m.entries⟩

instance : Storage FileMap where
  isOccupied m path := (m.get? path).isSome
  read? := get?
  makeDirectory m _ := (m, true)
  put m path content := (m.insert path content, true)

@[simp] theorem get?_insert (m : FileMap) (path content other : String) :
    (m.insert path content).get? other = if other = path then some content else m.get? other := by
  by_cases h : other = path
  · simp [get?, insert, h]
  · simp [get?, insert, List.lookup_cons, beq_eq_false_iff_ne.2 h, h]

/-- In a map, every file is written or kept. -/
theorem write_eq (f : File) (m : FileMap) :
    f.write m = if f.overwrite = .ifMissing ∧ (m.get? f.path).isSome then (m, .ok .skipped)
      else (m.insert f.path f.content, .ok .written) := by
  unfold File.write File.replace File.makeParent File.isKept
  cases Path.parent? f.path <;> cases f.overwrite <;> simp [Storage.isOccupied,
    Storage.makeDirectory, Storage.put]

end FileMap

end JavaScaffold
