/-!
# Code points as letters and digits

A sequence of code points is written with lower-case letters, digits and hyphens only: the ASCII
characters as they stand, and after the last hyphen the others as differences of place and value in
numbers of variable length.

* `encode`: the letters and digits of a sequence of code points;
* `decode?`: the code points they stand for.
-/

namespace PrintClient.Url.Punycode

/-- The threshold of the digit at position `k` (a multiple of 36). -/
def threshold (k bias : Nat) : Nat := min (max (k - bias) 1) 26

/-- Shrinks the difference until it is small, counting the steps. -/
def settle : Nat → Nat → Nat → Nat
  | 0, k, delta => k + 36 * delta / (delta + 38)
  | fuel + 1, k, delta =>
    if 455 < delta then settle fuel (k + 36) (delta / 35) else k + 36 * delta / (delta + 38)

/-- The bias after a difference was written. -/
def adapt (delta count : Nat) (first : Bool) : Nat :=
  let delta := if first then delta / 700 else delta / 2
  settle 32 0 (delta + delta / count)

/-- The letter or digit of a value below 36. -/
def digitChar (n : Nat) : Char := Char.ofNat (if n < 26 then 97 + n else 22 + n)

/-- The value of a letter or digit. -/
def digitValue? (c : Char) : Option Nat :=
  if 'a' ≤ c ∧ c ≤ 'z' then some (c.toNat - 97)
  else if 'A' ≤ c ∧ c ≤ 'Z' then some (c.toNat - 65)
  else if '0' ≤ c ∧ c ≤ '9' then some (c.toNat - 22)
  else none

/-- The digits of a difference from the position `k` on. -/
def writeNumber : Nat → Nat → Nat → Nat → List Char
  | 0, _, _, _ => []
  | fuel + 1, k, bias, q =>
    let t := threshold k bias
    if q < t then [digitChar q]
    else digitChar (t + (q - t) % (36 - t)) :: writeNumber fuel (k + 36) bias ((q - t) / (36 - t))

/-- The state of writing: the next code point, the difference so far, the bias, and how many code
points are done. -/
structure Writing where
  next : Nat
  delta : Nat
  bias : Nat
  done : Nat

/-- Passes one code point of the input while `w.next` is being written. -/
def writePoint (basic : Nat) (w : Writing) (out : List Char) (point : Nat) : Writing × List Char :=
  if point < w.next then ({ w with delta := w.delta + 1 }, out)
  else if point = w.next then
    let digits := writeNumber 32 36 w.bias w.delta
    ({ w with
        delta := 0
        bias := adapt w.delta (w.done + 1) (w.done == basic)
        done := w.done + 1 },
      out ++ digits)
  else (w, out)

/-- Writes the code points that are not ASCII, the smallest ones first. -/
def writePoints (points : List Nat) (basic : Nat) : Nat → Writing → List Char → List Char
  | 0, _, out => out
  | fuel + 1, w, out =>
    match (points.filter (w.next ≤ ·)).min? with
    | none => out
    | some m =>
      let w := { w with delta := w.delta + (m - w.next) * (w.done + 1), next := m }
      let (w, out) := points.foldl (fun (w, out) p => writePoint basic w out p) (w, out)
      writePoints points basic fuel { w with delta := w.delta + 1, next := w.next + 1 } out

/-- The letters and digits of a sequence of code points. -/
def encode (points : List Nat) : List Char :=
  let ascii := points.filter (· < 128)
  let front := ascii.map Char.ofNat ++ (if ascii = [] then [] else ['-'])
  writePoints points ascii.length points.length ⟨128, 0, 72, ascii.length⟩ front

/-- A number of variable length from the position `k` on, added to `i` with weight `w`; and the
rest. -/
def readNumber? (k bias w i : Nat) : List Char → Option (Nat × List Char)
  | [] => none
  | c :: rest =>
    match digitValue? c with
    | none => none
    | some d =>
      let i := i + d * w
      let t := threshold k bias
      if d < t then some (i, rest) else readNumber? (k + 36) bias (w * (36 - t)) i rest

/-- Reads differences and inserts the code points that they stand for. -/
def readPoints? : Nat → Nat → Nat → Nat → List Nat → List Char → Option (List Nat)
  | _, _, _, _, points, [] => some points
  | 0, _, _, _, _, _ => none
  | fuel + 1, n, i, bias, points, cs =>
    match readNumber? 36 bias 1 i cs with
    | none => none
    | some (j, rest) =>
      let count := points.length + 1
      let n := n + j / count
      let place := j % count
      if 0x10ffff < n then none
      else
        readPoints? fuel n (place + 1) (adapt (j - i) count (i == 0))
          (points.take place ++ n :: points.drop place) rest

/-- The characters before the last hyphen, if there is one, and those after it. -/
def splitLast (cs : List Char) : List Char × List Char :=
  let after := (cs.reverse.takeWhile (· ≠ '-')).reverse
  ((cs.take (cs.length - after.length)).dropLast, after)

/-- The code points that letters and digits stand for. -/
def decode? (cs : List Char) : Option (List Nat) :=
  let (front, back) := splitLast cs
  readPoints? back.length 128 0 72 (front.map Char.toNat) back

end PrintClient.Url.Punycode
