import JavaScaffold.Decl.Accessors
import Mathlib.Data.List.Nodup

/-!
# The methods that accessors add

Accessors come behind the methods that a declaration has already, and only under
names that are free.  The names of different fields can be made into the same accessor
name, so the accessor of a field can be kept out by that of a field before it.

## Main Definitions

* `IsAccessorTail` — methods that can stand behind those of a declaration
* `Method.IsGetterOf`, `Method.IsSetterOf` — what makes a method read or write a field
* `Field.IsAccessed` — when a field has the accessors that belong to it

## Main Statements

* `Outline.exists_accessorTail` — what accessors add to a declaration
* `Outline.mem_added_iff` — which of some methods are added
* `Outline.isAccessed` — the accessors of each field of a declaration
-/

namespace JavaScaffold

/-- **Methods that accessors add** to the methods `own` of a declaration with some
fields: methods for these fields, in their order, under names that are free. -/
structure IsAccessorTail (fields : List Field) (own extra : List Method) : Prop where
  sublist : extra.Sublist (fields.flatMap Field.accessors)
  nodup : (extra.map Method.name).Nodup
  fresh : ∀ m ∈ extra, m.name ∉ own.map Method.name

theorem isAccessorTail_nil (fields : List Field) (own : List Method) :
    IsAccessorTail fields own [] where
  sublist := List.nil_sublist _
  nodup := List.nodup_nil
  fresh := List.forall_mem_nil _

/-- A field that is not static has one accessor, or two when it is not final. -/
theorem Field.mem_accessors_iff {f : Field} {m : Method} :
    m ∈ f.accessors ↔
      f.isStatic = false ∧ (m = f.getter ∨ f.isFinal = false ∧ m = f.setter) := by
  rw [accessors]
  cases f.isStatic <;> cases f.isFinal <;> simp

/-- An accessor of a field reads it or writes it. -/
theorem Field.eq_of_mem_accessors {f : Field} {m : Method} (made : m ∈ f.accessors) :
    m = f.getter ∨ m = f.setter :=
  (mem_accessors_iff.mp made).2.imp_right And.right

namespace Outline

variable {own : List Method} {m : Method}

theorem addFree_of_mem (taken : m.name ∈ own.map Method.name) : addFree own m = own := by
  obtain ⟨other, found, same⟩ := List.mem_map.mp taken
  rw [addFree, if_pos]
  exact List.any_eq_true.mpr ⟨other, found, beq_iff_eq.mpr same⟩

theorem addFree_of_not_mem (free : m.name ∉ own.map Method.name) :
    addFree own m = own ++ [m] := by
  rw [addFree, if_neg]
  intro taken
  obtain ⟨other, found, same⟩ := List.any_eq_true.mp taken
  exact free (List.mem_map.mpr ⟨other, found, beq_iff_eq.mp same⟩)

/-- Of some methods, those under free names are added at the end, and of methods with
the same name only the first one. -/
theorem exists_foldl_addFree (own ms : List Method) :
    ∃ extra, ms.foldl addFree own = own ++ extra ∧ extra.Sublist ms ∧
      (extra.map Method.name).Nodup ∧ ∀ m ∈ extra, m.name ∉ own.map Method.name := by
  induction ms generalizing own with
  | nil => exact ⟨[], (List.append_nil own).symm, .slnil, List.nodup_nil, List.forall_mem_nil _⟩
  | cons m ms ih =>
      rw [List.foldl_cons]
      by_cases taken : m.name ∈ own.map Method.name
      · rw [addFree_of_mem taken]
        obtain ⟨extra, all, sublist, nodup, fresh⟩ := ih own
        exact ⟨extra, all, sublist.cons m, nodup, fresh⟩
      · rw [addFree_of_not_mem taken]
        obtain ⟨extra, all, sublist, nodup, fresh⟩ := ih (own ++ [m])
        have later : ∀ m' ∈ extra, m'.name ∉ own.map Method.name ∧ m'.name ≠ m.name := by
          intro m' member
          have free := fresh m' member
          rw [List.map_append, List.mem_append, not_or, List.map_singleton,
            List.mem_singleton] at free
          exact free
        refine ⟨m :: extra, ?_, sublist.cons_cons m, ?_, ?_⟩
        · rw [all, List.append_assoc, List.singleton_append]
        · rw [List.map_cons, List.nodup_cons]
          refine ⟨fun member => ?_, nodup⟩
          obtain ⟨m', found, same⟩ := List.mem_map.mp member
          exact (later m' found).2 same
        · intro m' member
          rcases List.mem_cons.mp member with rfl | found
          · exact taken
          · exact (later m' found).1

/-- **What accessors add** to a declaration stands behind its own methods. -/
theorem exists_accessorTail (d : Outline) :
    ∃ extra, d.withAccessors.methods = d.methods ++ extra ∧
      IsAccessorTail d.fields d.methods extra := by
  obtain ⟨extra, all, sublist, nodup, fresh⟩ := exists_foldl_addFree d.methods d.accessors
  refine ⟨extra, ?_, ?_, nodup, fresh⟩
  · rw [withAccessors, all]
  · rwa [accessors] at sublist

/-! ### Which methods are added -/

theorem mem_names_addFree {name : String} :
    name ∈ (addFree own m).map Method.name ↔ name ∈ own.map Method.name ∨ name = m.name := by
  by_cases taken : m.name ∈ own.map Method.name
  · rw [addFree_of_mem taken]
    constructor
    · exact .inl
    · rintro (there | rfl)
      · exact there
      · exact taken
  · rw [addFree_of_not_mem taken, List.map_append, List.mem_append, List.map_singleton,
      List.mem_singleton]

/-- Afterwards there is a method under each of the names, be it the one that was to be
added or not. -/
theorem mem_names_foldl_addFree {ms : List Method} {name : String} :
    name ∈ (ms.foldl addFree own).map Method.name ↔
      name ∈ own.map Method.name ∨ name ∈ ms.map Method.name := by
  induction ms generalizing own with
  | nil => simp
  | cons m ms ih =>
      rw [List.foldl_cons, ih, mem_names_addFree, List.map_cons, List.mem_cons, or_assoc]

/-- **Which methods are added**: those whose names are neither taken before nor by one of
the methods in front of them. -/
theorem mem_added_iff {front back extra : List Method}
    (added : (front ++ m :: back).foldl addFree own = own ++ extra) (first : m ∉ front) :
    m ∈ extra ↔ m.name ∉ own.map Method.name ∧ m.name ∉ front.map Method.name := by
  obtain ⟨extra₁, all₁, sublist₁, -, -⟩ := exists_foldl_addFree own front
  obtain ⟨extra₂, all₂, -, -, fresh₂⟩ := exists_foldl_addFree (addFree (own ++ extra₁) m) back
  rw [List.foldl_append, List.foldl_cons, all₁, all₂] at added
  have names : m.name ∈ (own ++ extra₁).map Method.name ↔
      m.name ∈ own.map Method.name ∨ m.name ∈ front.map Method.name := by
    rw [← all₁, mem_names_foldl_addFree]
  have early : m ∉ extra₁ := fun member => first (sublist₁.subset member)
  -- Behind its own turn, the name of the method is taken in any case.
  have late : m ∉ extra₂ := fun member => fresh₂ m member (mem_names_addFree.mpr (.inr rfl))
  rw [← not_or, ← names]
  by_cases taken : m.name ∈ (own ++ extra₁).map Method.name
  · rw [addFree_of_mem taken, List.append_assoc] at added
    rw [← List.append_cancel_left added, List.mem_append]
    exact iff_of_false (not_or.mpr ⟨early, late⟩) (not_not_intro taken)
  · rw [addFree_of_not_mem taken, List.append_assoc, List.append_assoc] at added
    rw [← List.append_cancel_left added]
    exact iff_of_true (by simp) taken

end Outline

/-! ### Reading and writing -/

/-- **The method `m` reads the field `f`**: it takes nothing, has the type of the field as
its result, and returns the field. -/
structure Method.IsGetterOf (f : Field) (m : Method) : Prop where
  name : m.name = Accessor.getter f.name f.isFlag
  returnType : m.returnType = some f.type
  params : m.params = []
  body : m.body = ["return " ++ f.name ++ ";"]

/-- **The method `m` writes the field `f`**: it takes one parameter of the type of the
field, and assigns it to the field. -/
structure Method.IsSetterOf (f : Field) (m : Method) : Prop where
  name : m.name = Accessor.setter f.name
  returnType : m.returnType = none
  params : ∃ q : Param, m.params = [q] ∧ q.name = f.name ∧ q.type = f.type
  body : m.body = ["this." ++ f.name ++ " = " ++ f.name ++ ";"]

/-- The methods that read and the methods that write have different names. -/
theorem Accessor.getter_ne_setter (property other : String) (isBoolean : Bool) :
    getter property isBoolean ≠ setter other := by
  intro same
  have letters := congrArg (fun name : String => name.toList.take 3) same
  cases isBoolean <;> simp [getter, setter] at letters

namespace Field

variable {f g : Field} {m : Method}

theorem isGetterOf_getter (f : Field) : f.getter.IsGetterOf f :=
  ⟨rfl, rfl, rfl, rfl⟩

theorem isSetterOf_setter (f : Field) : f.setter.IsSetterOf f :=
  ⟨rfl, rfl, ⟨_, rfl, rfl, rfl⟩, rfl⟩

/-- What a method returns is not what a method assigns. -/
theorem return_ne_assign (f g : Field) :
    ["return " ++ f.name ++ ";"] ≠ ["this." ++ g.name ++ " = " ++ g.name ++ ";"] := by
  intro same
  have letters := congrArg (fun line : String => line.toList.take 1) (List.singleton_inj.mp same)
  simp at letters

/-- A method that reads a field is the accessor of no field with another name. -/
theorem eq_getter (reads : m.IsGetterOf f) (made : m ∈ g.accessors) :
    g.name = f.name ∧ m = g.getter := by
  have body := reads.body
  rcases eq_of_mem_accessors made with rfl | rfl
  · refine ⟨?_, rfl⟩
    have texts := congrArg String.toList (List.singleton_inj.mp body)
    exact String.toList_inj.mp (by simpa [getter] using texts)
  · exact (return_ne_assign f g body.symm).elim

theorem eq_setter (writes : m.IsSetterOf f) (made : m ∈ g.accessors) :
    g.name = f.name ∧ m = g.setter := by
  have body := writes.body
  rcases eq_of_mem_accessors made with rfl | rfl
  · exact (return_ne_assign g f body).elim
  · obtain ⟨q, params, named, -⟩ := writes.params
    cases params
    exact ⟨named, rfl⟩

/-- Which fields have an accessor under the name of a method that reads. -/
theorem getter_mem_names {fields : List Field} {property : String} {isBoolean : Bool} :
    Accessor.getter property isBoolean ∈ (fields.flatMap accessors).map Method.name ↔
      ∃ g ∈ fields, g.isStatic = false ∧
        Accessor.getter g.name g.isFlag = Accessor.getter property isBoolean := by
  simp only [List.mem_map, List.mem_flatMap, mem_accessors_iff]
  constructor
  · rintro ⟨m, ⟨g, member, instanceField, rfl | ⟨-, rfl⟩⟩, same⟩
    · exact ⟨g, member, instanceField, same⟩
    · exact (Accessor.getter_ne_setter _ _ _ same.symm).elim
  · rintro ⟨g, member, instanceField, same⟩
    exact ⟨g.getter, ⟨g, member, instanceField, .inl rfl⟩, same⟩

/-- Which fields have an accessor under the name of a method that writes. -/
theorem setter_mem_names {fields : List Field} {property : String} :
    Accessor.setter property ∈ (fields.flatMap accessors).map Method.name ↔
      ∃ g ∈ fields, g.isStatic = false ∧ g.isFinal = false ∧
        Accessor.setter g.name = Accessor.setter property := by
  simp only [List.mem_map, List.mem_flatMap, mem_accessors_iff]
  constructor
  · rintro ⟨m, ⟨g, member, instanceField, rfl | ⟨mutable, rfl⟩⟩, same⟩
    · exact (Accessor.getter_ne_setter _ _ _ same).elim
    · exact ⟨g, member, instanceField, mutable, same⟩
  · rintro ⟨g, member, instanceField, mutable, same⟩
    exact ⟨g.setter, ⟨g, member, instanceField, .inr ⟨mutable, rfl⟩⟩, same⟩

/-- **When a field has its accessors**, where the fields `before` come before it.  The
methods `own` are the planned ones, and the methods `extra` come behind them.  An accessor
is there exactly when its name is free: no planned method has the name, and no earlier
field has the same accessor under it. -/
structure IsAccessed (own extra : List Method) (before : List Field) (f : Field) : Prop where
  getter : f.isStatic = false →
    ((∃ m ∈ extra, m.IsGetterOf f) ↔
      Accessor.getter f.name f.isFlag ∉ own.map Method.name ∧
        ∀ g ∈ before, g.isStatic = false →
          Accessor.getter g.name g.isFlag ≠ Accessor.getter f.name f.isFlag)
  setter : f.isStatic = false → f.isFinal = false →
    ((∃ m ∈ extra, m.IsSetterOf f) ↔
      Accessor.setter f.name ∉ own.map Method.name ∧
        ∀ g ∈ before, g.isStatic = false → g.isFinal = false →
          Accessor.setter g.name ≠ Accessor.setter f.name)

end Field

namespace Outline

variable {d : Outline} {extra : List Method} {before after : List Field} {f : Field} {m : Method}

/-- What has been added is an accessor of some field. -/
theorem exists_field_of_mem_extra (added : d.withAccessors.methods = d.methods ++ extra)
    (member : m ∈ extra) : ∃ g ∈ d.fields, m ∈ g.accessors := by
  obtain ⟨tail, all, accessors⟩ := d.exists_accessorTail
  rw [← List.append_cancel_left (all.symm.trans added)] at member
  exact List.mem_flatMap.mp (accessors.sublist.subset member)

/-- **One kind of accessors**: what makes a method one for the field `f` is said by `Good`,
and `role` gives the accessor of this kind for each field.  There is one for `f` exactly
when its name is free, which it is not if a field before has an accessor under it. -/
theorem exists_added_iff (added : d.withAccessors.methods = d.methods ++ extra)
    (distinct : (d.fields.map Field.name).Nodup) (split : d.fields = before ++ f :: after)
    {Good : Method → Prop} {role : Field → Method} (good : Good (role f))
    (only : ∀ {g m}, Good m → m ∈ g.accessors → g.name = f.name ∧ m = role g)
    {inner rest : List Method} (place : f.accessors = inner ++ role f :: rest)
    (other : (role f).name ∉ inner.map Method.name) :
    (∃ m ∈ extra, Good m) ↔ (role f).name ∉ d.methods.map Method.name ∧
      (role f).name ∉ (before.flatMap Field.accessors).map Method.name := by
  have planned : f ∈ d.fields := split ▸ List.mem_append_cons_self
  have itself : (∃ m ∈ extra, Good m) ↔ role f ∈ extra := by
    refine ⟨?_, fun member => ⟨_, member, good⟩⟩
    rintro ⟨m, member, fits⟩
    obtain ⟨g, field, made⟩ := exists_field_of_mem_extra added member
    obtain ⟨same, rfl⟩ := only fits made
    rwa [← List.inj_on_of_nodup_map distinct field planned same]
  -- The fields before have other names, so the accessor is none of theirs.
  have first : role f ∉ before.flatMap Field.accessors ++ inner := by
    rw [List.mem_append, not_or, List.mem_flatMap]
    refine ⟨?_, fun member => other (List.mem_map_of_mem member)⟩
    rintro ⟨g, member, made⟩
    rw [split, List.map_append, List.nodup_append] at distinct
    exact distinct.2.2 _ (List.mem_map_of_mem member) _ List.mem_cons_self (only good made).1
  have order : d.accessors = (before.flatMap Field.accessors ++ inner) ++
      role f :: (rest ++ after.flatMap Field.accessors) := by
    rw [accessors, split, List.flatMap_append, List.flatMap_cons, place]
    simp only [List.append_assoc, List.cons_append]
  rw [withAccessors, order] at added
  rw [itself, mem_added_iff added first, List.map_append, List.mem_append, or_iff_left other]

/-- **The accessors of each field** of a declaration whose fields have different names. -/
theorem isAccessed (added : d.withAccessors.methods = d.methods ++ extra)
    (distinct : (d.fields.map Field.name).Nodup) (split : d.fields = before ++ f :: after) :
    f.IsAccessed d.methods extra before := by
  constructor
  case getter =>
    intro instanceField
    have place : ∃ rest, f.accessors = [] ++ f.getter :: rest := by
      rw [Field.accessors, instanceField]
      cases f.isFinal <;> exact ⟨_, rfl⟩
    obtain ⟨rest, place⟩ := place
    refine (exists_added_iff added distinct split f.isGetterOf_getter Field.eq_getter place
      List.not_mem_nil).trans (and_congr_right fun _ => ?_)
    exact (not_congr Field.getter_mem_names).trans (by simp)
  case setter =>
    intro instanceField mutable
    have place : f.accessors = [f.getter] ++ f.setter :: [] := by
      rw [Field.accessors, instanceField, mutable]
      rfl
    have other : f.setter.name ∉ [f.getter].map Method.name := by
      rw [List.map_singleton, List.mem_singleton]
      exact (Accessor.getter_ne_setter _ _ _).symm
    refine (exists_added_iff added distinct split f.isSetterOf_setter Field.eq_setter place
      other).trans (and_congr_right fun _ => ?_)
    exact (not_congr Field.setter_mem_names).trans (by simp)

end Outline

end JavaScaffold
