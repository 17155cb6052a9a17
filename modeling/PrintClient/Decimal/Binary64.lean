import PrintClient.Word

/-!
# Finite binary floating-point numbers

A `Binary64` is a finite number of the 64-bit binary format, kept as the integer pair
`mantissa * 2 ^ exponent` with a sign. The pair is canonical, so that equal numbers of equal
sign are equal values. Arithmetic is exact integer arithmetic followed by one rounding
to nearest, a tie going to the even neighbour; a result beyond the largest finite number is `none`.

* `roundDiv`: a quotient rounded to the nearest integer, ties to even;
* `Binary64.ofRatio?`: a ratio of naturals rounded to the nearest number of the format;
* `mul?`, `div?`, `powTen?`: the operations that reading a decimal needs.
-/

namespace PrintClient

/-- The quotient rounded to the nearest integer; a tie goes to the even neighbour. -/
def roundDiv (num den : Nat) : Nat :=
  let q := num / den
  let r := num % den
  if 2 * r < den then q
  else if den < 2 * r then q + 1
  else if q % 2 = 0 then q
  else q + 1

/-- A pair of the format: a full mantissa, or a smaller one at the least exponent. -/
def Binary64.Canonical (mantissa : Nat) (exponent : Int) : Prop :=
  mantissa < twoTo 53 ∧ -1074 ≤ exponent ∧ exponent ≤ 971 ∧ (twoTo 52 ≤ mantissa ∨ exponent = -1074)

instance (mantissa : Nat) (exponent : Int) : Decidable (Binary64.Canonical mantissa exponent) := by
  unfold Binary64.Canonical; infer_instance

/-- A finite number: `mantissa * 2 ^ exponent`, negated if `negative`. Both zeros exist. -/
structure Binary64 where
  negative : Bool
  mantissa : Nat
  exponent : Int
  canonical : Binary64.Canonical mantissa exponent
  deriving DecidableEq

namespace Binary64

/-- Zero with a sign. -/
def zero (negative : Bool) : Binary64 := ⟨negative, 0, -1074, by decide⟩

instance : Inhabited Binary64 := ⟨zero false⟩

/-- The number with the opposite sign. -/
def neg (x : Binary64) : Binary64 := { x with negative := !x.negative }

/-- Whether the number is one of the two zeros. -/
def isZero (x : Binary64) : Bool := x.mantissa == 0

/-- The mantissa of `num / den` at a given exponent, rounded to nearest. -/
def mantissaAt (num den : Nat) (exponent : Int) : Nat :=
  if exponent < 0 then roundDiv (num * twoTo (-exponent).toNat) den
  else roundDiv num (den * twoTo exponent.toNat)

/-- The exponent at which `num / den` has a full mantissa, or the least one of the format. -/
def exponentOf (num den : Nat) : Int :=
  let guess : Int := (num.log2 : Int) - den.log2 - 53
  let floorAt : Nat :=
    if guess < 0 then num * twoTo (-guess).toNat / den else num / (den * twoTo guess.toNat)
  max (if floorAt < twoTo 53 then guess else guess + 1) (-1074)

/-- The number of the format nearest to `num / den`, unless that is beyond the largest one. -/
def ofRatio? (negative : Bool) (num den : Nat) : Option Binary64 :=
  if num = 0 then some (zero negative)
  else
    let e := exponentOf num den
    let m := mantissaAt num den e
    if h : Canonical m e then some ⟨negative, m, e, h⟩
    else if h : Canonical (m / 2) (e + 1) then some ⟨negative, m / 2, e + 1, h⟩
    else none

/-- The numerator of the magnitude, over `denominator`. -/
def numerator (x : Binary64) : Nat := x.mantissa * twoTo x.exponent.toNat

/-- The denominator of the magnitude, a power of two. -/
def denominator (x : Binary64) : Nat := twoTo (-x.exponent).toNat

/-- The nearest number to a natural number. -/
def ofNat? (n : Nat) : Option Binary64 := ofRatio? false n 1

/-- The rounded product. -/
def mul? (x y : Binary64) : Option Binary64 :=
  ofRatio? (x.negative != y.negative) (x.numerator * y.numerator) (x.denominator * y.denominator)

/-- The rounded quotient; `none` for a zero divisor. -/
def div? (x y : Binary64) : Option Binary64 :=
  if y.isZero then none
  else ofRatio? (x.negative != y.negative) (x.numerator * y.denominator)
    (x.denominator * y.numerator)

/-- The nearest number to a power of ten. -/
def powTen? (n : Nat) : Option Binary64 := ofNat? (tenTo n)

end Binary64

end PrintClient
