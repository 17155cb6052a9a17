import PrintClient.Url.CodePoints
import PrintClient.Url.CompositionTable

/-!
# Composed characters

One text can be written in several ways, with composed characters or with their parts. The composed
form has every combining character in the place that its class asks for, and a composed character
wherever there is one.

* `split`: a character as its parts;
* `place`: a combining character put into the order of the classes;
* `compose`: the composed form of a text.
-/

namespace PrintClient.Url.Domain

/-- The composed characters with their parts. -/
def compositions : List Rule := readRows compositionRows

/-- The combining characters with their classes. -/
def classes : List Rule := readRows classRows

/-- The class of a combining character; other characters have class zero. -/
def combiningClass (c : Char) : Nat := ((listing? classes c).bind List.head?).getD 0

/-! ### Hangul -/

/-- The parts of a Hangul syllable: its first two letters, or the syllable of these and the third
letter. -/
def syllableParts? (c : Char) : Option (Char × Char) :=
  let n := c.toNat - 0xac00
  if 0xac00 ≤ c.toNat ∧ n < 11172 then
    if n % 28 = 0 then some (Char.ofNat (0x1100 + n / 588), Char.ofNat (0x1161 + n % 588 / 28))
    else some (Char.ofNat (c.toNat - n % 28), Char.ofNat (0x11a7 + n % 28))
  else none

/-- The Hangul syllable made of two parts. -/
def syllable? (a b : Char) : Option Char :=
  let first := a.toNat - 0x1100
  let second := b.toNat - 0x1161
  let third := b.toNat - 0x11a7
  if 0x1100 ≤ a.toNat ∧ first < 19 ∧ 0x1161 ≤ b.toNat ∧ second < 21 then
    some (Char.ofNat (0xac00 + (first * 21 + second) * 28))
  else if 0xac00 ≤ a.toNat ∧ a.toNat < 0xac00 + 11172 ∧ (a.toNat - 0xac00) % 28 = 0 ∧
      0x11a7 < b.toNat ∧ third < 28 then
    some (Char.ofNat (a.toNat + third))
  else none

/-! ### Parts and wholes -/

/-- The two parts of a composed character. -/
def twoParts? (c : Char) : Option (Char × Char) :=
  match syllableParts? c with
  | some ps => some ps
  | none =>
    match listing? compositions c with
    | some [a, b] => some (Char.ofNat a, Char.ofNat b)
    | _ => none

/-- The composed character made of two parts. -/
def whole? (a b : Char) : Option Char :=
  match syllable? a b with
  | some c => some c
  | none =>
    (compositions.find? fun r => r.target = [a.toNat, b.toNat]).map fun r => Char.ofNat r.first

/-- A character as its parts, the first of which may have parts again, at most `depth` times. -/
def split : Nat → Char → List Char
  | 0, c => [c]
  | depth + 1, c =>
    match twoParts? c with
    | some (a, b) => split depth a ++ [b]
    | none => [c]

/-- How often parts have parts again at most. -/
def splitDepth : Nat := 3

/-- Puts a combining character of class `k` behind a text in reverse, before the combining
characters of higher classes. -/
def place (c : Char) (k : Nat) : List Char → List Char
  | [] => [c]
  | d :: before => if k < combiningClass d then d :: place c k before else c :: d :: before

/-- All the parts of a text in reverse, combining characters in the order of their classes. -/
def decomposeReversed (cs : List Char) : List Char :=
  (cs.flatMap (split splitDepth)).foldl (fun out c =>
    let k := combiningClass c
    if k = 0 then c :: out else place c k out) []

/-! ### The composed form -/

/-- What has been composed: the finished text in reverse, the last character that others combine
with, the ones that stayed behind it in reverse, and the class of the last of these. -/
structure Composing where
  done : List Char
  base : Option Char
  marks : List Char
  lastClass : Nat

namespace Composing

/-- Nothing yet. -/
def empty : Composing := ⟨[], none, [], 0⟩

/-- The text so far in reverse. -/
def reversed (s : Composing) : List Char := s.marks ++ s.base.toList ++ s.done

/-- Adds a character; it joins the base unless one of its own or a higher class stands between them.
-/
def add (s : Composing) (c : Char) : Composing :=
  let k := combiningClass c
  let joined := match s.base with
    | some b => if s.marks = [] ∨ s.lastClass < k then whole? b c else none
    | none => none
  match joined with
  | some w => { s with base := some w }
  | none =>
    if k = 0 then ⟨s.reversed, some c, [], 0⟩
    else { s with marks := c :: s.marks, lastClass := k }

end Composing

/-- The composed form of a text. Nothing below U+0300 combines. -/
def compose (cs : List Char) : List Char :=
  if cs.all (·.toNat < 0x300) then cs
  else ((decomposeReversed cs).reverse.foldl Composing.add Composing.empty).reversed.reverse

end PrintClient.Url.Domain
