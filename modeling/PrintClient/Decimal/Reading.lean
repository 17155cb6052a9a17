import PrintClient.Decimal.Binary64

/-!
# Reading decimals

Two ways from a decimal `significand * 10 ^ exponent` to a binary number. `Binary64.nearest?` rounds
the exact value once. `Binary64.scaled?` rounds the significand first and then multiplies or divides
it by a rounded power of ten, each step rounding again; it is the way of JSON text, and differs from
the first by at most a few units in the last place.
-/

namespace PrintClient.Binary64

/-- The number nearest to `significand * 10 ^ exponent`, unless that is too large. -/
def nearest? (negative : Bool) (significand : Nat) (exponent : Int) : Option Binary64 :=
  if significand = 0 then some (zero negative)
  -- Far outside the range of the format the exact power of ten need not be built.
  else if exponent + (Nat.toDigits 10 significand).length < -330 then some (zero negative)
  else if 330 < exponent then none
  else ofRatio? negative (significand * tenTo exponent.toNat) (tenTo (-exponent).toNat)

/-- The value of a row of decimal digits. -/
def digitsValue (ds : List Char) : Nat := ds.foldl (fun n d => n * 10 + (d.toNat - 48)) 0

/-- The number nearest to the decimal with these digits before and after the point, times a power of
ten. -/
def ofDigits? (negative : Bool) (whole fraction : List Char) (exponent : Int) : Option Binary64 :=
  nearest? negative (digitsValue (whole ++ fraction)) (exponent - fraction.length)

/-- Divides by `10 ^ 308` at most `n` times, stopping at zero. -/
def shrink : Nat → Binary64 → Option Binary64
  | 0, x => some x
  | n + 1, x =>
    if x.isZero then some x
    else do
      let p ← powTen? 308
      let y ← div? x p
      shrink n y

/-- The significand rounded, then scaled by a power of ten in rounded steps; `none` if too large. -/
def scaled? (significand : Nat) (exponent : Int) : Option Binary64 := do
  let x ← ofNat? significand
  if 308 < exponent then
    if x.isZero then some x else none
  else if 0 ≤ exponent then
    let p ← powTen? exponent.toNat
    mul? x p
  else
    let down := (-exponent).toNat
    let steps := if down ≤ 308 then 0 else (down - 1) / 308
    -- Three steps take every significand of 64 bits to zero.
    if 3 < steps then some (zero false)
    else
      let y ← shrink steps x
      if y.isZero then some y
      else
        let p ← powTen? (down - 308 * steps)
        div? y p

end PrintClient.Binary64
