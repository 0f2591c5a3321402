import AlertRelay.Number.Binary64

/-!
# The shortest decimal text of a number

`Binary64.shortest` finds the fewest digits that read back as the same number: it goes through the
grids of one, two, … seventeen significant digits and takes the first grid that has a point in the
interval of numbers that round to the value, and on it the point nearest to the value.
`Binary64.decimalText` writes those digits out.
-/

namespace AlertRelay

namespace Binary64

/-- The value and the ends of its rounding interval as numerators over one denominator, and whether
the ends themselves round to the value. -/
structure Interval where
  low : Nat
  value : Nat
  high : Nat
  den : Nat
  closed : Bool

/-- The interval of reals that round to a value. Below a power of two the neighbour is nearer. -/
def interval (x : Binary64) : Interval :=
  let nearBelow := x.mantissa == Nat.pow 2 52 && minExponent < x.exponent
  let m := 4 * x.mantissa
  let low := if nearBelow then m - 1 else m - 2
  let up := if 0 ≤ x.exponent then Nat.pow 2 x.exponent.toNat else 1
  let down := if 0 ≤ x.exponent then 1 else Nat.pow 2 (-x.exponent).toNat
  ⟨low * up, m * up, (m + 2) * up, 4 * down, x.mantissa % 2 == 0⟩

/-- The least `j` such that `num * 10 ^ j` reaches `den`, searched among the given number of
candidates. -/
def leadingZeros (num den : Nat) : Nat → Nat
  | 0 => 0
  | fuel + 1 => if den ≤ num then 0 else leadingZeros (num * 10) den fuel + 1

/-- The decimal exponent of a positive number `num / den`: the power of ten of its first digit. -/
def tenExponent (num den : Nat) : Int :=
  if den ≤ num then (Nat.toDigits 10 (num / den)).length - 1
  else -(leadingZeros num den 400 : Int)

/-- The point of the grid with step `10 ^ k` that stands for the value, if one does. -/
def onGrid (v : Interval) (k : Int) : Option Nat :=
  -- all quantities are multiplied by `10 ^ (-k)` or the grid by `10 ^ k`
  let up := Nat.pow 10 (-k).toNat
  let step := Nat.pow 10 k.toNat * v.den
  let floor := v.value * up / step
  let inside (c : Nat) : Bool :=
    if v.closed then v.low * up ≤ c * step && c * step ≤ v.high * up
    else v.low * up < c * step && c * step < v.high * up
  let below := v.value * up - floor * step
  let above := (floor + 1) * step - v.value * up
  match inside floor, inside (floor + 1) with
  | true, true =>
    some (if above < below || (above == below && floor % 2 == 1) then floor + 1 else floor)
  | true, false => some floor
  | false, true => some (floor + 1)
  | false, false => none

/-- The first grid of `n`, `n + 1`, … digits that has a point for the value: that point and the
exponent of its last digit. -/
def searchGrids (v : Interval) (first : Int) (n : Nat) : Nat → Nat × Int
  | 0 => (0, 0)
  | fuel + 1 =>
    let k := first - n + 1
    match onGrid v k with
    | some c => (c, k)
    | none => searchGrids v first (n + 1) fuel

/-- Drops the zeros at the end of a positive numeral. -/
def dropZeros (c : Nat) (k : Int) : Nat → Nat × Int
  | 0 => (c, k)
  | fuel + 1 => if c % 10 == 0 && c != 0 then dropZeros (c / 10) (k + 1) fuel else (c, k)

/-- The digits of a positive number and the power of ten of the first one. -/
def shortest (x : Binary64) : List Char × Int :=
  let v := x.interval
  let (c, k) := searchGrids v (tenExponent v.value v.den) 1 17
  let (c, k) := dropZeros c k 20
  let digits := Nat.toDigits 10 c
  (digits, k + digits.length - 1)

/-- Which decimal exponents are written positionally: from `leastPlain` to `greatestPlain`. -/
structure DecimalStyle where
  leastPlain : Int
  greatestPlain : Int

/-- Numbers from `0.00001` to below `10 ^ 16` are written positionally, all others with an
exponent. -/
def DecimalStyle.standard : DecimalStyle := ⟨-5, 15⟩

/-- Digits with a point after the first `n`, padded with zeros on either side. -/
def plainText (digits : List Char) (e : Int) : List Char :=
  if e < 0 then
    ['0', '.'] ++ List.replicate ((-e).toNat - 1) '0' ++ digits
  else
    let n := e.toNat + 1
    let whole := digits.take n ++ List.replicate (n - digits.length) '0'
    let rest := digits.drop n
    whole ++ ['.'] ++ (if rest.isEmpty then ['0'] else rest)

/-- Digits with a point after the first one, if there are more, and an exponent, which always has a
sign and has no leading zeros. -/
def scientificText (digits : List Char) (e : Int) : List Char :=
  digits.take 1 ++ (if digits.length ≤ 1 then [] else '.' :: digits.drop 1) ++
    ['e', if e < 0 then '-' else '+'] ++ Nat.toDigits 10 e.natAbs

/-- The number written with the fewest digits, behind a minus sign if `negative`. -/
def decimalText (x : Binary64) (negative : Bool) : String :=
  let sign := if negative then ['-'] else []
  let style := DecimalStyle.standard
  let body :=
    if x.mantissa = 0 then ['0', '.', '0']
    else
      let (digits, e) := x.shortest
      if style.leastPlain ≤ e && e ≤ style.greatestPlain then plainText digits e
      else scientificText digits e
  String.ofList (sign ++ body)

end Binary64

end AlertRelay
