import PrintClient.Decimal.Binary64

/-!
# The shortest decimal that reads back

Every decimal in the rounding interval of a finite number reads back as that number. Of the decimals
in the interval, `shortest` picks one with the fewest digits, and of those the nearest to the
number. A grid of `n` significant digits has a point in the interval exactly when one of the two
grid points next to the number is in it, so only those two are tried, for `n = 1, 2, …, 17`.

* `Interval`: the reals that round to a number, as integers over a common denominator;
* `Decimal.shortest`: the digits and the place of the leading one.
-/

namespace PrintClient

/-- The reals that round to a number, each side scaled by the same positive `den`.
The ends belong to the interval exactly when the mantissa is even. -/
structure Interval where
  low : Nat
  value : Nat
  high : Nat
  den : Nat
  closed : Bool
  deriving DecidableEq, Repr

/-- The rounding interval of a number's magnitude. Just above a power of two the lower half
is half as wide. -/
def Binary64.interval (x : Binary64) : Interval :=
  let m := x.mantissa
  let up := twoTo (x.exponent - 2).toNat
  let below := if m = twoTo 52 ∧ -1074 < x.exponent then 1 else 2
  { low := (4 * m - below) * up
    value := 4 * m * up
    high := (4 * m + 2) * up
    den := twoTo (2 - x.exponent).toNat
    closed := m % 2 == 0 }

/-- Whether `num / den` lies in the interval. -/
def Interval.contains (i : Interval) (num den : Nat) : Bool :=
  let lo := i.low * den
  let hi := i.high * den
  let v := num * i.den
  if i.closed then lo ≤ v && v ≤ hi else lo < v && v < hi

/-- A positive decimal `0.d₁d₂… * 10 ^ (point)`, its digits without needless zeros at either end. -/
structure Decimal where
  /-- The digits as one number. -/
  digits : Nat
  /-- The power of ten that the last digit stands for. -/
  scale : Int
  deriving DecidableEq, Repr

namespace Decimal

/-- The number of decimal digits; zero has one. -/
def digitCount (n : Nat) : Nat := (Nat.toDigits 10 n).length

/-- The power of ten of the leading digit of the positive ratio `num / den`. -/
def leading (num den : Nat) : Int :=
  if den ≤ num then (digitCount (num / den) : Int) - 1
  else -(digitCount ((den + num - 1) / num - 1) : Int)

/-- The decimal point `digits * 10 ^ scale` as a ratio. -/
def ratio (d : Decimal) : Nat × Nat := (d.digits * tenTo d.scale.toNat, tenTo (-d.scale).toNat)

/-- The grid point of power `scale` at or below the interval's number. -/
def floorAt (i : Interval) (scale : Int) : Nat :=
  if scale < 0 then i.value * tenTo (-scale).toNat / i.den
  else i.value / (i.den * tenTo scale.toNat)

/-- The better of the two grid points around the number that lie in the interval. -/
def onGrid (i : Interval) (scale : Int) : Option Decimal :=
  let lower : Decimal := ⟨floorAt i scale, scale⟩
  let upper : Decimal := ⟨floorAt i scale + 1, scale⟩
  let inside (d : Decimal) : Bool := i.contains d.ratio.1 d.ratio.2
  match inside lower, inside upper with
  | true, true =>
    -- The sum of the two neighbours against twice the number tells which is nearer.
    let twice := (2 * floorAt i scale + 1) * tenTo scale.toNat * i.den
    let number := 2 * i.value * tenTo (-scale).toNat
    if number < twice then some lower
    else if twice < number then some upper
    else if lower.digits % 2 = 0 then some lower else some upper
  | true, false => some lower
  | false, true => some upper
  | false, false => none

/-- The first grid, from coarse to fine, with a point in the interval. -/
def search (i : Interval) (top : Int) : Nat → Nat → Option Decimal
  | _, 0 => none
  | n, left + 1 =>
    match onGrid i (top - n) with
    | some d => some d
    | none => search i top (n + 1) left

/-- Removes zeros at the end of the digits. -/
def trim (digits : Nat) (scale : Int) : Nat → Decimal
  | 0 => ⟨digits, scale⟩
  | n + 1 =>
    if digits % 10 = 0 ∧ digits ≠ 0 then trim (digits / 10) (scale + 1) n else ⟨digits, scale⟩

/-- The shortest decimal that reads back as the magnitude of a number, `0` for a zero. -/
def shortest (x : Binary64) : Decimal :=
  if x.isZero then ⟨0, 0⟩
  else
    let i := x.interval
    match search i (leading i.value i.den) 0 17 with
    | some d => trim d.digits d.scale 17
    | none => ⟨0, 0⟩

end Decimal

end PrintClient
