import JavaScaffold.Accessor
import JavaScaffold.Decl.Basic

/-!
# Accessor methods

The methods that read and write the instance fields of a declaration.

## Main Definitions

* `Field.getter`, `Field.setter` — the methods for one field
* `Outline.accessors` — the methods for all instance fields, in order
* `Outline.withAccessors` — a declaration with those of them whose names are free
-/

namespace JavaScaffold

namespace Field

/-- Whether a field holds a single truth value. -/
def isFlag (f : Field) : Bool :=
  f.type.primitive? == some .boolean && !f.type.isArray

/-- The method that reads a field. -/
def getter (f : Field) : Method :=
  { name := Accessor.getter f.name f.isFlag
    returnType := some f.type
    body := ["return " ++ f.name ++ ";"] }

/-- The method that writes a field. -/
def setter (f : Field) : Method :=
  { name := Accessor.setter f.name
    params := [{ name := f.name, type := f.type }]
    body := ["this." ++ f.name ++ " = " ++ f.name ++ ";"] }

/-- The methods for a field: one that reads it, and one that writes it unless it is final.  Static
fields have none. -/
def accessors (f : Field) : List Method :=
  if f.isStatic then [] else if f.isFinal then [f.getter] else [f.getter, f.setter]

end Field

namespace Outline

/-- The methods for all fields, in the order of the fields. -/
def accessors (d : Outline) : List Method :=
  d.fields.flatMap Field.accessors

/-- The methods `ms` with `m` at their end, unless its name is taken. -/
def addFree (ms : List Method) (m : Method) : List Method :=
  if ms.any (·.name == m.name) then ms else ms ++ [m]

/-- The declaration `d` with the methods for its fields.  Of methods with the same name the first
one stays, those of the declaration itself before all others. -/
def withAccessors (d : Outline) : Outline :=
  { d with methods := d.accessors.foldl addFree d.methods }

end Outline

end JavaScaffold
