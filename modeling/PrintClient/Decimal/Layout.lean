import PrintClient.Decimal.Shortest

/-!
# How a decimal is laid out

A `Decimal.Layout` says where positional notation ends and which ornaments a number carries;
`render` lays out the shortest decimal of a number accordingly. The two layouts of the program are
`Layout.json`, for numbers in JSON text, and `Layout.positional`, for numbers in configuration
reports.
-/

namespace PrintClient.Decimal

/-- The choices left open by the digits of a number. -/
structure Layout where
  /-- The least power of ten of a leading digit that is written positionally; `none`: any. -/
  least : Option Int
  /-- The greatest power of ten of a leading digit that is written positionally; `none`: any. -/
  greatest : Option Int
  /-- Whether a whole number written positionally ends in `.0`. -/
  wholePoint : Bool
  /-- Whether an exponent that is not negative carries a plus sign. -/
  plus : Bool
  deriving DecidableEq, Repr

/-- Numbers in JSON text: positional from `0.00001` up to sixteen whole digits, always with a point
or an exponent, so that a whole number stays a floating-point number when it is read back. -/
def Layout.json : Layout := ⟨some (-5), some 15, true, true⟩

/-- Numbers in configuration reports: always positional, whole numbers without a point. -/
def Layout.positional : Layout := ⟨none, none, false, false⟩

/-- Whether a leading digit at this power is written positionally. -/
def Layout.isPositional (l : Layout) (top : Int) : Bool :=
  (match l.least with | some a => decide (a ≤ top) | none => true) &&
    (match l.greatest with | some b => decide (top ≤ b) | none => true)

/-- Digits with the point after the first `whole` of them, padded by zeros on either side. -/
def placed (l : Layout) (digits : List Char) (whole : Int) : List Char :=
  let n : Int := digits.length
  if n ≤ whole then
    digits ++ List.replicate (whole - n).toNat '0' ++ (if l.wholePoint then ['.', '0'] else [])
  else if 0 < whole then digits.take whole.toNat ++ '.' :: digits.drop whole.toNat
  else '0' :: '.' :: (List.replicate (-whole).toNat '0' ++ digits)

/-- Digits with an exponent: a point after the first of several. -/
def scientific (l : Layout) (digits : List Char) (top : Int) : List Char :=
  let body := match digits with
    | [] => []
    | [d] => [d]
    | d :: rest => d :: '.' :: rest
  let sign := if top < 0 then ['-'] else if l.plus then ['+'] else []
  body ++ 'e' :: (sign ++ Nat.toDigits 10 top.natAbs)

/-- The text of a finite number. -/
def renderChars (l : Layout) (x : Binary64) : List Char :=
  let d := shortest x
  let digits := Nat.toDigits 10 d.digits
  let whole : Int := digits.length + d.scale
  let body := if l.isPositional (whole - 1) then placed l digits whole
    else scientific l digits (whole - 1)
  if x.negative then '-' :: body else body

/-- The text of a finite number. -/
def render (l : Layout) (x : Binary64) : String := String.ofList (renderChars l x)

end PrintClient.Decimal
