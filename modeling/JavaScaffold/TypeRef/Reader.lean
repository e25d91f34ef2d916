import JavaScaffold.TypeRef.Basic
import JavaScaffold.TypeRef.Bracketing

/-!
# Reading type references

A specification is read leniently.  A leading `?` makes a wildcard; `extends ` or `super ` after it
gives the bound, and any other text after it is read as the hidden name of an unbounded wildcard.
Otherwise the name stands before the first `<`, the arguments between that and the last `>`, and
text after the last `>` is kept when it starts with a bracket.

## Main Definitions

* `SpecError` — the two ways in which a specification is not readable
* `TypeRef.read`, `TypeRef.parse` — the reader, on characters and on a text

## Design Notes

`read` recurses on the length of the specification: the bound of a wildcard is shorter than the
wildcard, and the arguments of a type fit between its brackets.  Whether a reference is an array is
asked of the text as given, which has to end in `]`.
-/

namespace JavaScaffold

/-- Why a type specification cannot be read.  Each cause holds the trimmed specification. -/
inductive SpecError
  /-- No `>` follows the first `<`. -/
  | unclosed (spec : String)
  /-- The brackets between the outer ones are not balanced. -/
  | unbalanced (spec : String)
  deriving Repr, DecidableEq

namespace SpecError

/-- The wording of a specification error. -/
def message : SpecError → String
  | unclosed spec => "type arguments are never closed in '" ++ spec ++ "'"
  | unbalanced spec => "unbalanced '<' and '>' in '" ++ spec ++ "'"

/-- The stable identification of a specification error. -/
def code : SpecError → String
  | unclosed _ => "jgen::dom::unclosed_type_arguments"
  | unbalanced _ => "jgen::dom::unbalanced_type_arguments"

/-- What to do about a specification error. -/
def help : SpecError → String
  | unclosed _ => "add the missing '>' to the type specification"
  | unbalanced _ => "every '<' in a generic type needs a matching '>'"

end SpecError

namespace TypeRef

/-- The rest of `cs` after the leading text `front`, when it starts with that. -/
def afterFront? (front cs : List Char) : Option (List Char) :=
  if front.isPrefixOf cs then some (cs.drop front.length) else none

/-- The wildcard that starts a trimmed specification, and the text of its bound. -/
def wildcardOf? : List Char → Option (Wildcard × List Char)
  | '?' :: rest =>
    match afterFront? "extends ".toList (Text.trim rest) with
    | some bound => some (.upper, bound)
    | none =>
      match afterFront? "super ".toList (Text.trim rest) with
      | some bound => some (.lower, bound)
      | none => some (.unbounded, Text.trim rest)
  | _ => none

theorem length_afterFront?_le {front cs rest : List Char} (h : afterFront? front cs = some rest) :
    rest.length ≤ cs.length := by
  simp only [afterFront?] at h
  split at h
  · obtain rfl := Option.some.inj h
    simp
  · simp at h

/-- The bound of a wildcard is shorter than the specification it was found in. -/
theorem length_wildcardOf?_lt {spec bound : List Char} {w : Wildcard}
    (h : wildcardOf? (Text.trim spec) = some (w, bound)) : bound.length < spec.length := by
  have hle := Text.length_trim_le spec
  generalize Text.trim spec = cs at h hle
  unfold wildcardOf? at h
  split at h
  · next rest =>
    have hr := Text.length_trim_le rest
    simp only [List.length_cons] at hle
    split at h
    · next hb =>
      obtain ⟨-, rfl⟩ := Prod.mk.inj (Option.some.inj h)
      have := length_afterFront?_le hb
      omega
    · split at h
      · next hb =>
        obtain ⟨-, rfl⟩ := Prod.mk.inj (Option.some.inj h)
        have := length_afterFront?_le hb
        omega
      · obtain ⟨-, rfl⟩ := Prod.mk.inj (Option.some.inj h)
        omega
  · simp at h

/-- Whether a specification ends in a closing bracket. -/
def endsInBracket (spec : List Char) : Bool :=
  spec.getLast? == some ']'

/-- The brackets kept from the text after the type arguments. -/
def bracketsOf (trailing : List Char) : String :=
  if (Text.trim trailing).head? == some '[' then String.ofList (Text.trim trailing) else ""

mutual

/-- Reads a type specification. -/
def read (spec : List Char) : Except SpecError TypeRef :=
  match _hw : wildcardOf? (Text.trim spec) with
  | some (wildcard, bound) => do
    let t ← read bound
    return { t with wildcard := some wildcard }
  | none =>
    match _hb : Bracketing.of spec with
    | .plain name => return { TypeNode.ofName name with args := [], isArray := endsInBracket spec }
    | .unclosed => throw (.unclosed (String.ofList (Text.trim spec)))
    | .generic name arguments trailing =>
      match _hs : splitArguments arguments with
      | none => throw (.unbalanced (String.ofList (Text.trim spec)))
      | some segments => do
        let args ← readAll segments
        return { TypeNode.ofName name with
          args := args, brackets := bracketsOf trailing, isArray := endsInBracket spec }
termination_by spec.length
decreasing_by
  · exact length_wildcardOf?_lt _hw
  · have := Bracketing.length_arguments_lt _hb
    have := spread_splitArguments_le _hs
    omega

/-- Reads each of some specifications. -/
def readAll (segments : List (List Char)) : Except SpecError (List TypeRef) :=
  match segments with
  | [] => return []
  | segment :: rest => do
    let t ← read segment
    let ts ← readAll rest
    return t :: ts
termination_by spread segments
decreasing_by
  · simp only [spread]
    omega
  · simp only [spread]
    omega

end

/-- Reads the type specification `spec`. -/
def parse (spec : String) : Except SpecError TypeRef :=
  read spec.toList

end TypeRef

end JavaScaffold
