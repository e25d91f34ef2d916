import JavaScaffold.Decl.Member
import JavaScaffold.Layout.Body
import JavaScaffold.Unit.Scope

/-!
# Writing members

## Main Definitions

* `Site` — where a member is written
* `keywords` — the keywords that apply, each with a blank behind it
* `TypeParam.clause`, `Param.text`, `Field.text`, `Method.signature` — the texts of single members
* `Field.write`, `Method.write`, `InitBlock.write` — members with their comments and bodies

## Design Notes

Inside an interface the keywords `public` and `abstract` go without saying.  Elsewhere a method that
is a mere signature is abstract unless it is native, whether or not it was declared so.
-/

namespace JavaScaffold

/-- Where a declaration or a member is written. -/
structure Site where
  /-- What the file makes visible; none for a piece of code without a file. -/
  scope : Option Scope := none
  /-- Whether the surrounding declaration is an interface. -/
  inInterface : Bool := false

/-- The texts of some references at a site. -/
def Site.typeNames (site : Site) (ts : List TypeRef) : List String :=
  ts.map (TypeRef.display site.scope)

/-- The keywords whose condition holds, in order. -/
def keywords (choices : List (Bool × String)) : String :=
  String.join ((choices.filter Prod.fst).map Prod.snd)

/-- The text of a type parameter, such as `T extends A & B`. -/
def TypeParam.text (site : Site) (p : TypeParam) : String :=
  if p.bounds.isEmpty then p.name
  else p.name ++ " extends " ++ " & ".intercalate (site.typeNames p.bounds)

/-- The list of type parameters in angle brackets, or nothing when there are none. -/
def TypeParam.clause (site : Site) (ps : List TypeParam) : String :=
  if ps.isEmpty then "" else "<" ++ ", ".intercalate (ps.map (TypeParam.text site)) ++ ">"

/-- The text of a parameter or component, with its annotations in front. -/
def Param.text (site : Site) (p : Param) : String :=
  String.join (p.annotations.map (· ++ " ")) ++ p.type.display site.scope ++
    (if p.isVariadic then "..." else "") ++ " " ++ p.name

/-- The list of parameters or components in parentheses. -/
def Param.clause (site : Site) (ps : List Param) : String :=
  "(" ++ ", ".intercalate (ps.map (Param.text site)) ++ ")"

/-- The line of a field. -/
def Field.text (site : Site) (f : Field) : String :=
  f.visibility.keyword ++
    keywords [(f.isStatic, "static "), (f.isFinal, "final "), (f.isTransient, "transient "),
      (f.isVolatile, "volatile ")] ++
    f.type.display site.scope ++ " " ++ f.name ++
    (match f.initializer with
      | some expression => " = " ++ expression
      | none => "") ++ ";"

/-- Writes a field. -/
def Field.write (site : Site) (f : Field) (b : CodeBuilder) : CodeBuilder :=
  ((b.lines f.doc.lines).lines f.annotations).line (f.text site)

namespace Method

/-- The text of the visibility of a method at a site. -/
def visibilityText (site : Site) (m : Method) : String :=
  if site.inInterface && m.visibility == .everyone then "" else m.visibility.keyword

/-- Whether a method is written as abstract at a site. -/
def printsAbstract (site : Site) (m : Method) : Bool :=
  m.isBodyless && !m.isNative && !site.inInterface

/-- The result of a method with a blank behind it.  A constructor has none. -/
def resultText (site : Site) (m : Method) : String :=
  if m.isConstructor then ""
  else
    match m.returnType with
    | some t => t.display site.scope ++ " "
    | none => "void "

/-- The type parameters of a method with a blank behind them, or nothing when there are none. -/
def typeParamsText (site : Site) (m : Method) : String :=
  if m.typeParams.isEmpty then "" else TypeParam.clause site m.typeParams ++ " "

/-- The exceptions of a method, or nothing when there are none. -/
def throwsText (site : Site) (m : Method) : String :=
  if m.exceptions.isEmpty then "" else " throws " ++ ", ".intercalate (site.typeNames m.exceptions)

/-- The first line of a method, up to the semicolon or the brace. -/
def signature (site : Site) (m : Method) : String :=
  m.visibilityText site ++
    keywords [(m.isDefault, "default "), (m.isStatic, "static "), (m.isFinal, "final "),
      (m.printsAbstract site, "abstract "), (m.isSynchronized, "synchronized "),
      (m.isNative, "native ")] ++
    m.typeParamsText site ++ m.resultText site ++ m.name ++ Param.clause site m.params ++
    m.throwsText site

/-- Writes a method. -/
def write (site : Site) (m : Method) (b : CodeBuilder) : CodeBuilder :=
  let head := (b.lines m.doc.lines).lines m.annotations
  if m.isBodyless then head.line (m.signature site ++ ";")
  else (head.line (m.signature site ++ " \x7b")).body m.body

end Method

/-- Writes an initializer block. -/
def InitBlock.write (i : InitBlock) (b : CodeBuilder) : CodeBuilder :=
  ((b.lines i.doc.lines).line (if i.isStatic then "static \x7b" else "\x7b")).body i.body

end JavaScaffold
