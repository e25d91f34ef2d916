import JavaScaffold.Text.Letter

/-!
# Identifiers

The names that may be declared: a letter, `_` or `$`, followed by letters, digits, `_` and `$`, and
not a word that the language keeps for itself.

## Main Definitions

* `Identifier.reservedWords` — the words kept by the language
* `Identifier.Flaw`, `Identifier.flaw?` — why a text is not formed like an identifier
* `Identifier.NameError`, `Identifier.check` — why a name cannot be declared

## Design Notes

The two questions stay apart.  `flaw?` looks at the characters only and finds nothing wrong with the
empty text or with a reserved word; `check` asks all three questions, emptiness first, then the
reserved words, then the characters.
-/

namespace JavaScaffold

namespace Identifier

/-- The words that cannot name a declaration: the keywords, the three literals, and the contextual
words refused as names. -/
def reservedWords : List String :=
  ["abstract", "assert", "boolean", "break", "byte", "case", "catch", "char", "class", "const",
    "continue", "default", "do", "double", "else", "enum", "extends", "false", "final", "finally",
    "float", "for", "goto", "if", "implements", "import", "instanceof", "int", "interface", "long",
    "native", "new", "non-sealed", "null", "package", "permits", "private", "protected", "public",
    "record", "return", "sealed", "short", "static", "strictfp", "super", "switch", "synchronized",
    "this", "throw", "throws", "transient", "true", "try", "var", "void", "volatile", "while",
    "yield", "_"]

/-- Whether `name` is kept by the language. -/
def isReserved (name : String) : Bool :=
  reservedWords.contains name

/-- Whether an identifier may start with `c`. -/
def isStart (c : Char) : Bool :=
  Text.isAlphabetic c || c == '_' || c == '$'

/-- Whether an identifier may go on with `c`. -/
def isPart (c : Char) : Bool :=
  Text.isAlphanumeric c || c == '_' || c == '$'

/-- What keeps a text from being formed like an identifier. -/
inductive Flaw
  /-- The first character cannot start an identifier. -/
  | badStart
  /-- A later character cannot stand in an identifier. -/
  | badCharacter
  deriving Repr, DecidableEq

/-- The wording of a flaw. -/
def Flaw.message : Flaw → String
  | badStart => "identifier must start with a letter, '_' or '$'"
  | badCharacter => "identifier contains characters other than letters, digits, '_' and '$'"

/-- What keeps `cs` from being formed like an identifier.  Nothing is wrong with the empty text. -/
def flaw? : List Char → Option Flaw
  | [] => none
  | first :: rest =>
    if !isStart first then some .badStart
    else if !rest.all isPart then some .badCharacter
    else none

/-- Why a name cannot be declared.  The `context` says what is being declared, such as a field. -/
inductive NameError
  /-- The name is kept by the language. -/
  | reserved (name context : String)
  /-- The name is empty or not formed like an identifier. -/
  | invalid (name context reason : String)
  deriving Repr, DecidableEq

namespace NameError

/-- The wording of a name error. -/
def message : NameError → String
  | reserved name _ => "'" ++ name ++ "' is a Java reserved word"
  | invalid name context _ => "invalid " ++ context ++ " name '" ++ name ++ "'"

/-- The stable identification of a name error. -/
def code : NameError → String
  | reserved .. => "jgen::dom::reserved_word"
  | invalid .. => "jgen::dom::invalid_identifier"

/-- What to do about a name error. -/
def help : NameError → String
  | reserved name context =>
    "rename the " ++ context ++ " '" ++ name ++ "', e.g. '" ++ name ++ "Value'"
  | invalid _ _ reason => reason ++ ". Java identifiers start with a letter, '_' or '$'"

end NameError

/-- Checks that `name` can be declared as a `context`.  Reserved words pass when `allowReserved`. -/
def check (name context : String) (allowReserved : Bool) : Except NameError Unit :=
  if name.isEmpty then .error (.invalid name context "identifier cannot be empty")
  else if !allowReserved && isReserved name then .error (.reserved name context)
  else
    match flaw? name.toList with
    | some flaw => .error (.invalid name context flaw.message)
    | none => .ok ()

/-- A text formed like an identifier is empty, or starts and goes on with the right characters. -/
theorem flaw?_eq_none_iff {cs : List Char} :
    flaw? cs = none ↔ ∀ first rest, cs = first :: rest → isStart first ∧ ∀ c ∈ rest, isPart c := by
  cases cs with
  | nil => simp [flaw?]
  | cons first rest => by_cases h : isStart first <;> simp [flaw?, h]

end Identifier

end JavaScaffold
