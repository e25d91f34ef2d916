import JavaScaffold.Layout.Comment
import JavaScaffold.TypeRef.Basic

/-!
# Members of a declaration

Fields, methods, parameters, type parameters and initializer blocks.  Bodies, initializers,
annotations and comments are opaque text.

## Main Definitions

* `Visibility` — who may use a declaration
* `TypeParam`, `Param`, `Field`, `Method`, `InitBlock` — the members
* `Method.isBodyless` — whether a method is written as a mere signature
-/

namespace JavaScaffold

/-- Who may use a declaration. -/
inductive Visibility
  /-- Everyone (`public`). -/
  | everyone
  /-- The package and the subclasses (`protected`). -/
  | subclasses
  /-- The declaring class (`private`). -/
  | declarer
  /-- The package, which is written without a keyword. -/
  | package
  deriving DecidableEq

/-- The keyword of a visibility with a blank behind it, or nothing. -/
def Visibility.keyword : Visibility → String
  | everyone => "public "
  | subclasses => "protected "
  | declarer => "private "
  | package => ""

/-- A type parameter with its bounds, as in `T extends A & B`. -/
structure TypeParam where
  name : String
  bounds : List TypeRef := []

/-- A parameter of a method, or a component of a record. -/
structure Param where
  name : String
  type : TypeRef
  /-- Whether the parameter takes any number of arguments. -/
  isVariadic : Bool := false
  annotations : List String := []

/-- A field. -/
structure Field where
  name : String
  type : TypeRef
  visibility : Visibility := .declarer
  isStatic : Bool := false
  isFinal : Bool := false
  isTransient : Bool := false
  isVolatile : Bool := false
  /-- The expression of the initial value. -/
  initializer : Option String := none
  doc : DocComment := {}
  annotations : List String := []

/-- A method or a constructor. -/
structure Method where
  name : String
  isConstructor : Bool := false
  /-- The type of the result; none for a method that returns nothing. -/
  returnType : Option TypeRef := none
  visibility : Visibility := .everyone
  isStatic : Bool := false
  isFinal : Bool := false
  isAbstract : Bool := false
  isSynchronized : Bool := false
  isNative : Bool := false
  /-- Whether the method is a `default` method of an interface. -/
  isDefault : Bool := false
  typeParams : List TypeParam := []
  params : List Param := []
  exceptions : List TypeRef := []
  /-- The lines of the body. -/
  body : List String := []
  doc : DocComment := {}
  annotations : List String := []

/-- A block of statements that runs when a class or an object is set up. -/
structure InitBlock where
  isStatic : Bool := false
  /-- The lines of the body. -/
  body : List String := []
  doc : DocComment := {}

/-- Whether a method is written as a mere signature: it is native or abstract, or has no lines. -/
def Method.isBodyless (m : Method) : Bool :=
  m.isNative || m.isAbstract || m.body.isEmpty

end JavaScaffold
