import JavaScaffold.TypeRef.Basic

/-!
# Well-known types

References that generated code needs again and again.  The collections come without arguments and
are given them by `TypeRef.withArg`.
-/

namespace JavaScaffold

/-- The reference to a primitive type. -/
def Primitive.type (p : Primitive) : TypeRef :=
  TypeRef.named p.keyword

/-- The reference to the class that boxes a primitive type. -/
def Primitive.wrapperType (p : Primitive) : TypeRef :=
  TypeRef.named p.wrapper

namespace TypeRef

/-- The class `java.lang.String`. -/
def string : TypeRef := named "java.lang.String"

/-- The class `java.lang.Object`. -/
def object : TypeRef := named "java.lang.Object"

/-- The class `java.util.Date`. -/
def date : TypeRef := named "java.util.Date"

/-- The class `java.util.List`. -/
def list : TypeRef := named "java.util.List"

/-- The class `java.util.ArrayList`. -/
def arrayList : TypeRef := named "java.util.ArrayList"

/-- The class `java.util.HashMap`. -/
def hashMap : TypeRef := named "java.util.HashMap"

/-- The class `java.util.Iterator`. -/
def iterator : TypeRef := named "java.util.Iterator"

/-- The class of query conditions inside a generated query class. -/
def criteria : TypeRef := named "Criteria"

/-- The base class of query conditions inside a generated query class. -/
def generatedCriteria : TypeRef := named "GeneratedCriteria"

end TypeRef

end JavaScaffold
