import JavaScaffold.TypeRef.Reader

/-!
# Kotlin types

References to Kotlin types, and the Kotlin counterpart of a Java reference.

## Main Definitions

* `KotlinType` — a package, a short name and type arguments
* `KotlinType.parse` — reads a specification, with the same rules for brackets as `TypeRef.parse`
* `KotlinType.ofJava` — the counterpart of a Java reference
* `KotlinType.text`, `KotlinType.shortName`, `KotlinType.imports` — the printed forms and the
  imports

## Design Notes

Kotlin types have no wildcards and no array brackets here.  Text after the last `>` is dropped.
The counterpart of a Java node depends on its qualified name alone: primitive types, their boxes,
strings, and plain arrays of those have counterparts of their own, and any other name is kept.
-/

namespace JavaScaffold

/-- A reference to a Kotlin type. -/
structure KotlinType where
  package : String
  name : String
  args : List KotlinType := []
  deriving Repr

namespace KotlinType

/-- The packages that every Kotlin file sees. -/
def automaticPackages : List String :=
  ["kotlin", "kotlin.collections"]

/-- The type of a name without arguments. -/
def ofName (name : List Char) : KotlinType :=
  match Text.splitLast '.' (Text.trim name) with
  | some (front, back) => { package := String.ofList front, name := String.ofList back }
  | none => { package := "", name := String.ofList (Text.trim name) }

/-- The type `t` with more type arguments. -/
def withArgs (t : KotlinType) (args : List KotlinType) : KotlinType :=
  { t with args := t.args ++ args }

/-- Whether a type is visible only by import or by its full name. -/
def isImportable (t : KotlinType) : Bool :=
  t.package != "" && !automaticPackages.contains t.package

mutual

/-- Reads a type specification. -/
def read (spec : List Char) : Except SpecError KotlinType :=
  match _hb : Bracketing.of (Text.trim spec) with
  | .plain name => return ofName name
  | .unclosed => throw (.unclosed (String.ofList (Text.trim spec)))
  | .generic name arguments _ =>
    match _hs : splitArguments arguments with
    | none => throw (.unbalanced (String.ofList (Text.trim spec)))
    | some segments => do
      let args ← readAll segments
      return { ofName name with args := args }
termination_by spec.length
decreasing_by
  have := Bracketing.length_arguments_lt _hb
  have := spread_splitArguments_le _hs
  have := Text.length_trim_le spec
  omega

/-- Reads each of some specifications. -/
def readAll (segments : List (List Char)) : Except SpecError (List KotlinType) :=
  match segments with
  | [] => return []
  | segment :: rest => do
    let t ← read segment
    let ts ← readAll rest
    return t :: ts
termination_by spread segments
decreasing_by
  · simp only [spread]
    omega
  · simp only [spread]
    omega

end

/-- Reads the type specification `spec`. -/
def parse (spec : String) : Except SpecError KotlinType :=
  read spec.toList

/-! ### Counterparts of Java types -/

/-- The Kotlin name of a Java primitive type. -/
def primitiveName : Primitive → String
  | .byte => "Byte"
  | .short => "Short"
  | .int => "Int"
  | .long => "Long"
  | .char => "Char"
  | .float => "Float"
  | .double => "Double"
  | .boolean => "Boolean"

/-- The type `name` of the package `kotlin`. -/
def builtIn (name : String) : KotlinType :=
  { package := "kotlin", name := name }

/-- The Kotlin name for a boxed primitive or a string, given by its qualified Java name. -/
def boxedName? (name : String) : Option String :=
  if name == "java.lang.String" then some "String"
  else (Primitive.all.find? fun p => p.wrapper == name).map primitiveName

/-- The counterpart of an element name, or of a plain array of that element. -/
def counterpart? (element : String) (isArray : Bool) : Option KotlinType :=
  match Primitive.ofKeyword? element with
  | some p =>
    some (builtIn (if isArray then primitiveName p ++ "Array" else primitiveName p))
  | none =>
    (boxedName? element).map fun name =>
      if isArray then { builtIn "Array" with args := [builtIn name] } else builtIn name

/-- The counterpart of a qualified Java name, which may end in array brackets. -/
def ofJavaName? (name : List Char) : Option KotlinType :=
  match Text.splitFirst '[' name with
  | some (element, _) => counterpart? (String.ofList (Text.trim element)) true
  | none => counterpart? (String.ofList name) false

/-- The counterpart of the node of a Java reference, without its arguments. -/
def ofJavaNode (t : TypeNode) : KotlinType :=
  match ofJavaName? t.qualifiedName.toList with
  | some known => known
  | none => ofName t.qualifiedName.toList

mutual

/-- The counterpart of a Java reference. -/
def ofJava : TypeRef → KotlinType
  | ⟨node, args⟩ => (ofJavaNode node).withArgs (ofJavaAll args)

/-- The counterparts of some Java references. -/
def ofJavaAll : List TypeRef → List KotlinType
  | [] => []
  | t :: ts => ofJava t :: ofJavaAll ts

end

/-! ### Printed forms -/

/-- A base name followed by the texts of its arguments. -/
def assemble (base : String) (args : List String) : String :=
  if args.isEmpty then base else base ++ "<" ++ ", ".intercalate args ++ ">"

/-- The qualified name of a node. -/
def qualifiedName (t : KotlinType) : String :=
  if t.package == "" then t.name else t.package ++ "." ++ t.name

mutual

/-- The reference with qualified names at every node. -/
def text : KotlinType → String
  | ⟨package, name, args⟩ => assemble (qualifiedName ⟨package, name, args⟩) (texts args)

/-- The texts of some references. -/
def texts : List KotlinType → List String
  | [] => []
  | t :: ts => t.text :: texts ts

end

mutual

/-- The reference with short names at every node. -/
def shortName : KotlinType → String
  | ⟨_, name, args⟩ => assemble name (shortNames args)

/-- The short names of some references. -/
def shortNames : List KotlinType → List String
  | [] => []
  | t :: ts => t.shortName :: shortNames ts

end

mutual

/-- The imports of a reference and of its arguments, in reading order. -/
def importPaths : KotlinType → List String
  | ⟨package, name, args⟩ =>
    (if isImportable ⟨package, name, args⟩ then [package ++ "." ++ name] else []) ++
      importPathsAll args

/-- The imports of some references. -/
def importPathsAll : List KotlinType → List String
  | [] => []
  | t :: ts => t.importPaths ++ importPathsAll ts

end

/-- The distinct imports of a reference and of its arguments, in ascending order. -/
def imports (t : KotlinType) : List String :=
  (t.importPaths.mergeSort fun a b => (compare a b).isLE).eraseDups

theorem ofJavaAll_eq_map (ts : List TypeRef) : ofJavaAll ts = ts.map ofJava := by
  induction ts with
  | nil => rfl
  | cons t ts ih => simp [ofJavaAll, ih]

theorem texts_eq_map (ts : List KotlinType) : texts ts = ts.map text := by
  induction ts with
  | nil => rfl
  | cons t ts ih => simp [texts, ih]

theorem ofJava_eq (t : TypeRef) : ofJava t = (ofJavaNode t.toTypeNode).withArgs (t.args.map ofJava) := by
  cases t
  simp [ofJava, ofJavaAll_eq_map]

theorem text_eq (t : KotlinType) : t.text = assemble t.qualifiedName (t.args.map text) := by
  cases t
  simp [text, texts_eq_map]

end KotlinType

end JavaScaffold
