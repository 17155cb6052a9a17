import PrintClient.Url.CodePoints
import PrintClient.Url.DirectionTable

/-!
# Directions of domain names

A name with characters that are written from right to left can be read in two ways when the
directions of its labels are mixed. So in such a name every label has one direction, which its first
character shows, and ends with a letter or a digit.

* `directionOf`: how a character is written;
* `keepsDirection`: whether one label has one direction;
* `directionsFit`: whether the labels of a name may stand together.
-/

namespace PrintClient.Url.Domain

/-- How a character is written. -/
inductive Direction where
  /-- From left to right. -/
  | right
  /-- From right to left. -/
  | left
  /-- A digit that goes with a script written from right to left. -/
  | arabicDigit
  | digit
  /-- Without a direction of its own. -/
  | neutral
  /-- A sign attached to the character before. -/
  | attached
  deriving DecidableEq, Repr

/-- The characters written from right to left. -/
def leftward : List Rule := readRows leftwardRows

/-- The digits that go with them. -/
def arabicDigits : List Rule := readRows arabicDigitRows

/-- The other digits. -/
def digits : List Rule := readRows digitRows

/-- The characters without a direction. -/
def neutrals : List Rule := readRows neutralRows

/-- The attached signs. -/
def attachments : List Rule := readRows attachedRows

/-- How a character is written. -/
def directionOf (c : Char) : Direction :=
  if c.toNat < 128 then
    if c.isDigit then .digit else if c.isAlpha then .right else .neutral
  else if isListed leftward c then .left
  else if isListed arabicDigits c then .arabicDigit
  else if isListed digits c then .digit
  else if isListed neutrals c then .neutral
  else if isListed attachments c then .attached
  else .right

/-- Whether a direction makes a name one with characters written from right to left. -/
def Direction.isLeftward (d : Direction) : Bool := d = .left || d = .arabicDigit

/-- Whether a label that starts in the direction `first` and goes on in the directions `rest` has
one direction throughout. -/
def keepsDirection (first : Direction) (rest : List Direction) : Bool :=
  let last := ((rest.reverse.dropWhile (· = .attached)).head?).getD first
  match first with
  | .right =>
    rest.all (fun d => d ≠ .left ∧ d ≠ .arabicDigit) && (last = .right || last = .digit)
  | .left =>
    rest.all (· ≠ .right) && !(rest.contains .digit && rest.contains .arabicDigit) &&
      (last = .left || last = .digit || last = .arabicDigit)
  | _ => false

/-- Whether the labels of a name may stand together: nothing in them is written from right to left,
or each of them has one direction. -/
def directionsFit (labels : List (List Char)) : Bool :=
  let directions := labels.map (·.map directionOf)
  !directions.any (·.any Direction.isLeftward) ||
    directions.all fun
      | [] => true
      | first :: rest => keepsDirection first rest

end PrintClient.Url.Domain
