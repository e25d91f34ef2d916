import JavaScaffold.Decimal.Binary

/-!
# Floating-point values

## Main Definitions

* `Floating` — a finite number with its sign, an infinity, or no number at all
* `Floating.ofNumeral?` — the value of a decimal numeral
* `Floating.text` — a value written without an exponent, in the fewest digits that read back
-/

namespace JavaScaffold.Decimal

/-- A value of 64-bit floating point. -/
inductive Floating
  | finite (negative : Bool) (magnitude : Binary)
  | infinite (negative : Bool)
  | nan
  deriving Repr, DecidableEq

namespace Floating

/-- The value of `± digits · 10 ^ exponent`, or nothing when it is beyond the largest finite
number.  The numeral has at most `length` digits, which bounds its size before it is computed. -/
def ofNumeral? (negative : Bool) (digits length : Nat) (exponent : Int) : Option Floating :=
  if digits = 0 || exponent + length < -330 then some (.finite negative ⟨0, Binary.minExponent⟩)
  else if 310 < exponent then none
  else
    let (num, den) := unscale 10 digits 1 (-exponent)
    (Binary.nearest? num den).map (.finite negative)

/-- The text of a value. -/
def text : Floating → String
  | finite negative magnitude =>
    let (digits, k) := magnitude.shortest
    (if negative then "-" else "") ++ positional digits k
  | infinite negative => if negative then "-inf" else "inf"
  | nan => "NaN"

end Floating

end JavaScaffold.Decimal
