import JavaScaffold.Text.Split
import JavaScaffold.Toml.Quoted
import JavaScaffold.Toml.Value

/-!
# Numerals

## Main Definitions

* `hasSpacedDigits` — the rule for underscores
* `integer?` — decimal integers with a sign, and hexadecimal, octal and binary ones without
* `floating?` — decimal fractions with an exponent, infinities, and the value that is no number

## Design Notes

A numeral is known by its form, and some texts have the form of an integer without writing one.
There need not be a digit behind the letter that gives the base.  And a decimal integer may hold any
characters behind its first underscore, as long as the neighbours of underscores are digits, where
hexadecimal digits are good enough.  A text with the form of a fraction always writes one, but the
number may round to an infinity.
-/

namespace JavaScaffold.Toml

open Decimal (Floating)

/-- Whether each underscore stands behind a digit and in front of one.  The flag says whether a
digit comes right before the text; a sign or the letter that gives the base is none. -/
def hasSpacedDigits (isDigit : Char → Bool) : Bool → List Char → Bool
  | _, [] => true
  | behindDigit, '_' :: rest =>
    behindDigit && rest.head?.any isDigit && hasSpacedDigits isDigit false rest
  | _, c :: rest => hasSpacedDigits isDigit (isDigit c) rest

/-- Whether `c` is a hexadecimal digit. -/
def isHexDigit (c : Char) : Bool :=
  (hexDigit? c).isSome

/-- The number that digits of the base `base` write, with underscores between them. -/
def digits? (base : Nat) (cs : List Char) : Option Nat :=
  let digits := (cs.filter (· != '_')).map hexDigit?
  if !digits.isEmpty && digits.all (·.any (· < base)) then
    some (digits.foldl (fun acc d => base * acc + d.getD 0) 0)
  else none

/-- Whether a numeral starts with a minus sign, or with a plus sign, and the rest of it. -/
def splitSign : List Char → Option Bool × List Char
  | '-' :: rest => (some true, rest)
  | '+' :: rest => (some false, rest)
  | cs => (none, cs)

/-- The number `n` with a sign. -/
def signed (sign : Option Bool) (n : Nat) : Int :=
  if sign = some true then -(n : Int) else n

/-- Whether `cs` has a needless zero at its start. -/
def hasLeadingZero (cs : List Char) : Bool :=
  cs.head? == some '0' && 1 < (cs.filter (· != '_')).length

/-- Whether `c` cannot stand in an integer: it belongs to a fraction, or comes between two words. -/
def isForeign (c : Char) : Bool :=
  c == '.' || c == 'e' || c == 'E' || c == ' '

/-- Whether `cs` has the form of a decimal integer, apart from its sign: digits, and perhaps more
behind an underscore. -/
def hasDecimalForm (cs : List Char) : Bool :=
  !hasLeadingZero cs &&
    match cs.dropWhile Char.isDigit with
    | [] => !cs.isEmpty
    | c :: rest => c == '_' && !rest.any isForeign

/-- The integer of the base `base` that `cs` writes. -/
def based? (base : Nat) (cs : List Char) : Option Value :=
  if cs.all (fun c => c == '_' || (hexDigit? c).any (· < base)) &&
      hasSpacedDigits isHexDigit false cs then
    some (.integer ((digits? base cs).map Int.ofNat))
  else none

/-- The integer that `cs` writes. -/
def integer? (cs : List Char) : Option Value :=
  match cs with
  | '0' :: 'x' :: rest => based? 16 rest
  | '0' :: 'o' :: rest => based? 8 rest
  | '0' :: 'b' :: rest => based? 2 rest
  | cs =>
    let (sign, rest) := splitSign cs
    if hasDecimalForm rest && hasSpacedDigits isHexDigit false rest then
      some (.integer ((digits? 10 rest).map (signed sign)))
    else none

/-- The exponent that `cs` writes, with the letter in front. -/
def exponent? : List Char → Option Int
  | [] => some 0
  | _ :: rest =>
    let (sign, digits) := splitSign rest
    (digits? 10 digits).map (signed sign)

/-- The number before the point or the exponent of a fraction. -/
def whole? (cs : List Char) : Option Nat :=
  if hasLeadingZero cs then none else digits? 10 cs

/-- The fraction that `cs` writes, apart from its sign. -/
def fraction? (negative : Bool) (cs : List Char) : Option Value := do
  let front := cs.takeWhile fun c => c != 'e' && c != 'E'
  let back := cs.dropWhile fun c => c != 'e' && c != 'E'
  let exponent ← exponent? back
  match Text.splitFirst '.' front with
  | none =>
    let n ← whole? front
    if back.isEmpty then none
    else return .float (Floating.ofNumeral? negative n front.length exponent)
  | some (front, places) =>
    let n ← whole? front
    let m ← digits? 10 places
    let count := (places.filter (· != '_')).length
    return .float (Floating.ofNumeral? negative (n * Nat.pow 10 count + m) (front.length + count)
      (exponent - count))

/-- The floating-point value that `cs` writes. -/
def floating? (cs : List Char) : Option Value :=
  let (sign, rest) := splitSign cs
  let negative := sign == some true
  if rest = ['i', 'n', 'f'] then some (.float (some (.infinite negative)))
  else if rest = ['n', 'a', 'n'] then some (.float (some .nan))
  else if hasSpacedDigits Char.isDigit false rest then fraction? negative rest
  else none

end JavaScaffold.Toml
