/-!
# Numbers in binary floating point

A finite number of the 64-bit format is a mantissa below `2 ^ 53` times a power of two.

## Main Definitions

* `Binary` — such a number, without its sign
* `Binary.nearest?` — the number of the format next to a fraction
* `Binary.shortest` — the decimal numeral with the fewest digits that reads back as the number
* `positional` — the text of a decimal numeral

## Design Notes

All arithmetic is exact, on natural numbers.  `shortest` tries the powers of ten from the largest
one down and stops at the first one that has a multiple in the interval of the reals that round to
the number.  Such a multiple is not divisible by ten, so its digits cannot be fewer.
-/

namespace JavaScaffold.Decimal

/-- The number `mantissa · 2 ^ exponent`. -/
structure Binary where
  mantissa : Nat
  exponent : Int
  deriving Repr, DecidableEq

/-- The quotient `n / d`, rounded to the nearest natural number; a half goes to the even one. -/
def roundDiv (n d : Nat) : Nat :=
  let double := 2 * (n % d)
  if double < d || (double == d && n / d % 2 == 0) then n / d else n / d + 1

/-- The fraction `n / d` divided by `base ^ exponent`, as a fraction. -/
def unscale (base n d : Nat) (exponent : Int) : Nat × Nat :=
  if 0 ≤ exponent then (n, d * Nat.pow base exponent.toNat)
  else (n * Nat.pow base (-exponent).toNat, d)

namespace Binary

/-- The number of bits in a mantissa. -/
def precision : Nat := 53

/-- The exponent of the smallest numbers. -/
def minExponent : Int := -1074

/-- The exponent of the largest numbers. -/
def maxExponent : Int := 971

/-- The number of the format nearest to `n / d`, or nothing when the fraction is too large. -/
def nearest? (n d : Nat) : Option Binary :=
  let guess := max (Int.ofNat n.log2 - Int.ofNat d.log2 - Int.ofNat precision) minExponent
  let atGuess := unscale 2 n d guess
  let exponent := if atGuess.1 / atGuess.2 < Nat.pow 2 precision then guess else guess + 1
  let scaled := unscale 2 n d exponent
  let mantissa := roundDiv scaled.1 scaled.2
  let result : Binary :=
    if mantissa = Nat.pow 2 precision then ⟨Nat.pow 2 (precision - 1), exponent + 1⟩
    else ⟨mantissa, exponent⟩
  if result.exponent ≤ maxExponent then some result else none

/-- How far the reals that round to `b` reach below it, in quarters of the unit `2 ^ exponent`: half
a unit, but a quarter of it at a power of two, below which the numbers lie twice as dense. -/
def lowerGap (b : Binary) : Nat :=
  if b.mantissa = Nat.pow 2 (precision - 1) && minExponent < b.exponent then 1 else 2

/-- The multiple of `10 ^ k` that is nearest to `b` among those that round to `b`; of two at the same
distance, the larger one. -/
def multiple? (b : Binary) (k : Int) : Option Nat :=
  -- in quarters of the unit `2 ^ exponent`, and with everything divided by `10 ^ k`
  let (unitNum, unitDen) :=
    if 0 ≤ b.exponent then (Nat.pow 2 b.exponent.toNat, 1) else (1, Nat.pow 2 (-b.exponent).toNat)
  let (num, den) := unscale 10 unitNum (4 * unitDen) k
  let middle := 4 * b.mantissa * num
  let low := (4 * b.mantissa - b.lowerGap) * num
  let high := (4 * b.mantissa + 2) * num
  let closed := b.mantissa % 2 == 0
  let within (x : Nat) : Bool :=
    if closed then low ≤ x * den && x * den ≤ high else low < x * den && x * den < high
  let below := middle / den
  match within below, within (below + 1) with
  | true, true => some (if middle - below * den < (below + 1) * den - middle then below else below + 1)
  | true, false => some below
  | false, true => some (below + 1)
  | false, false => none

/-- The largest power of ten that is tried. -/
def topPower : Int := 310

/-- The first power of ten with a fitting multiple, among the `n` powers from `10 ^ k` down. -/
def search (b : Binary) : Nat → Int → Nat × Int
  | 0, k => (0, k)
  | n + 1, k =>
    match b.multiple? k with
    | some digits => (digits, k)
    | none => search b n (k - 1)

/-- The decimal numeral `digits · 10 ^ k` with the fewest digits that reads back as `b`. -/
def shortest (b : Binary) : Nat × Int :=
  if b.mantissa = 0 then (0, 0) else b.search 660 topPower

end Binary

/-- The numeral `digits · 10 ^ k` without an exponent, with at least one digit on both sides of the
point. -/
def positional (digits : Nat) (k : Int) : String :=
  let ds := (toString digits).toList
  if 0 ≤ k then String.ofList (ds ++ List.replicate k.toNat '0') ++ ".0"
  else
    let places := (-k).toNat
    let padded := List.replicate (places + 1 - ds.length) '0' ++ ds
    let whole := padded.length - places
    String.ofList (padded.take whole) ++ "." ++ String.ofList (padded.drop whole)

end JavaScaffold.Decimal
