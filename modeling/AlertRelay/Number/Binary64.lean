/-!
# Binary floating point numbers of 64 bits

A finite value is `mantissa * 2 ^ exponent` with a mantissa below `2 ^ 53` and an exponent of at
least `-1074`. Signs are kept by whoever reads or writes the number. Every operation rounds the
exact result to the nearest value, a tie to the even mantissa, and gives `none` when the result is
too large.

A decimal numeral is read by `ofDecimal?` as a product or quotient of two rounded values: its
significand and a power of ten. That is at most a few units in the last place away from the
numeral, and it is what makes long numerals print the way they do.
-/

namespace AlertRelay

/-- A finite, non-negative number `mantissa * 2 ^ exponent`. -/
structure Binary64 where
  mantissa : Nat
  exponent : Int
  deriving DecidableEq, Repr

namespace Binary64

/-- The least exponent. -/
def minExponent : Int := -1074

/-- The greatest exponent. -/
def maxExponent : Int := 971

/-- Zero. -/
def zero : Binary64 := ⟨0, minExponent⟩

/-- `num / den` rounded to an integer, a tie to the even one. -/
def roundDiv (num den : Nat) : Nat :=
  let floor := num / den
  let twice := 2 * (num % den)
  if den < twice || (twice == den && floor % 2 == 1) then floor + 1 else floor

/-- `num / den * 2 ^ (-e)` as a pair of numerator and denominator. -/
def scaled (num den : Nat) (e : Int) : Nat × Nat :=
  if 0 ≤ e then (num, den * Nat.pow 2 e.toNat) else (num * Nat.pow 2 (-e).toNat, den)

/-- The value nearest to `num / den`, for a positive `den`. -/
def ofRatio? (num den : Nat) : Option Binary64 :=
  if num = 0 then some zero
  else
    let guess := max minExponent ((num.log2 : Int) - den.log2 - 53)
    let (n, d) := scaled num den guess
    let e := if Nat.pow 2 53 ≤ n / d then guess + 1 else guess
    let (n, d) := scaled num den e
    let m := roundDiv n d
    let (m, e) := if m = Nat.pow 2 53 then (Nat.pow 2 52, e + 1) else (m, e)
    if maxExponent < e then none else some ⟨m, e⟩

/-- The value nearest to a natural number. -/
def ofNat? (n : Nat) : Option Binary64 :=
  ofRatio? n 1

/-- The exact value as a pair of numerator and denominator. -/
def ratio (x : Binary64) : Nat × Nat :=
  scaled x.mantissa 1 (-x.exponent)

/-- The rounded product. -/
def mul? (x y : Binary64) : Option Binary64 :=
  ofRatio? (x.ratio.1 * y.ratio.1) (x.ratio.2 * y.ratio.2)

/-- The rounded quotient, for a divisor other than zero. -/
def div? (x y : Binary64) : Option Binary64 :=
  ofRatio? (x.ratio.1 * y.ratio.2) (x.ratio.2 * y.ratio.1)

/-- The greatest power of ten that a numeral is multiplied with or divided by at once. -/
def maxTenPower : Nat := 308

/-- `x * 10 ^ e`, one rounded power of ten at a time. -/
def scaleTen? (x : Binary64) (e : Int) : Nat → Option Binary64
  | 0 => some zero
  | steps + 1 =>
    if e.natAbs ≤ maxTenPower then
      (ofNat? (Nat.pow 10 e.natAbs)).bind fun p => if 0 ≤ e then x.mul? p else x.div? p
    else if x.mantissa = 0 then some zero
    else if 0 ≤ e then none
    else (ofNat? (Nat.pow 10 maxTenPower)).bind fun p =>
      (x.div? p).bind fun y => y.scaleTen? (e + maxTenPower) steps

/-- The number that the numeral `significand * 10 ^ exponent` is read as. Three steps are enough:
after them the value has become zero. -/
def ofDecimal? (significand : Nat) (exponent : Int) : Option Binary64 :=
  (ofNat? significand).bind fun x => x.scaleTen? exponent 4

end Binary64

end AlertRelay
