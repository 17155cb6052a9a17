import PrintClient.Failure
import PrintClient.Url.Domain
import PrintClient.Url.Percent
import PrintClient.Word

/-!
# Hosts

The host of a URL is a domain name or an address of the Internet protocol, version 4 or 6. A name
whose last label looks like a number is an address of version 4 or nothing; an address of version 6
stands in brackets.

* `Address4.parse?`, `Address6.parse?`: addresses from text;
* `Host.parse`: a host from text, or why it is none;
* `Host.text`: the one text of a host.
-/

namespace PrintClient.Url

/-! ### Addresses of version 4 -/

namespace Address4

/-- The value of a number in a base, if all characters are digits of it. -/
def digitsIn? (base : Nat) (cs : List Char) : Option Nat :=
  cs.foldlM (fun n c =>
    let d := if '0' ≤ c ∧ c ≤ '9' then c.toNat - 48
      else if 'a' ≤ c ∧ c ≤ 'f' then c.toNat - 87
      else if 'A' ≤ c ∧ c ≤ 'F' then c.toNat - 55
      else 16
    if d < base then some (n * base + d) else none) 0

/-- One part of an address: a number in base ten, in base eight after a zero, or in base sixteen
after `0x`. -/
def readPart? : List Char → Option Nat
  | [] => none
  | '0' :: 'x' :: rest => digitsIn? 16 rest
  | '0' :: 'X' :: rest => digitsIn? 16 rest
  | '0' :: d :: rest => digitsIn? 8 (d :: rest)
  | cs => digitsIn? 10 cs

/-- The labels of a name; one empty label at the end does not count. -/
def labels (cs : List Char) : List (List Char) :=
  let ls := parts '.' cs
  if ls.getLast? = some [] then ls.dropLast else ls

/-- Whether the last label looks like a number. -/
def endsInNumber (cs : List Char) : Bool :=
  match (labels cs).getLast? with
  | some l => (l ≠ [] && l.all Char.isDigit) || (readPart? l).isSome
  | none => false

/-- The address of at most four numbers, the last of which fills all the places that are left. -/
def parse? (cs : List Char) : Option Nat := do
  let ls := labels cs
  if 4 < ls.length then none
  else
    let numbers ← ls.mapM readPart?
    let last ← numbers.getLast?
    let front := numbers.dropLast
    if front.any (255 < ·) ∨ twoTo (8 * (4 - front.length)) ≤ last then none
    else some (front.foldl (fun n p => n * 256 + p) 0 * twoTo (8 * (4 - front.length)) + last)

/-- The four numbers of an address. -/
def bytes (a : Nat) : List Nat := [a / 16777216 % 256, a / 65536 % 256, a / 256 % 256, a % 256]

/-- The text of an address. -/
def text (a : Nat) : List Char :=
  ['.'].intercalate ((bytes a).map (Nat.toDigits 10))

end Address4

/-! ### Addresses of version 6 -/

namespace Address6

/-- Up to four hexadecimal digits: their value and the rest. -/
def readPiece (cs : List Char) : Nat × Nat × List Char :=
  let isHex (c : Char) : Bool := c.isDigit || ('a' ≤ c && c ≤ 'f') || ('A' ≤ c && c ≤ 'F')
  let ds := (cs.take 4).takeWhile isHex
  ((Address4.digitsIn? 16 ds).getD 0, ds.length, cs.drop ds.length)

/-- A number of the embedded address of version 4: digits without a zero in front, up to 255; and
the rest. -/
def readByte? (cs : List Char) : Option (Nat × List Char) :=
  let ds := cs.takeWhile Char.isDigit
  match ds with
  | [] => none
  | '0' :: _ :: _ => none
  | _ =>
    let n := (Address4.digitsIn? 10 ds).getD 256
    if n ≤ 255 then some (n, cs.drop ds.length) else none

/-- The two pieces of an embedded address of version 4, which ends the text. -/
def readEmbedded? (cs : List Char) : Option (List Nat) := do
  let (a, rest) ← readByte? cs
  let rest ← if rest.head? = some '.' then some rest.tail else none
  let (b, rest) ← readByte? rest
  let rest ← if rest.head? = some '.' then some rest.tail else none
  let (c, rest) ← readByte? rest
  let rest ← if rest.head? = some '.' then some rest.tail else none
  let (d, rest) ← readByte? rest
  if rest = [] then some [a * 256 + b, c * 256 + d] else none

/-- Reads pieces up to the end of the text. `gap` is the number of pieces before the double colon,
once there was one; the gap stands for one piece at least. -/
def readPieces? : Nat → List Nat → Option Nat → List Char → Option (List Nat × Option Nat)
  | 0, _, _, _ => none
  | fuel + 1, pieces, gap, cs =>
    let places := pieces.length + (if gap.isSome then 1 else 0)
    match cs with
    | [] => some (pieces, gap)
    | ':' :: rest =>
      if places = 8 ∨ gap.isSome then none else readPieces? fuel pieces (some pieces.length) rest
    | _ =>
      if places = 8 then none
      else
        let (value, length, rest) := readPiece cs
        match rest with
        | '.' :: _ =>
          if length = 0 ∨ 6 < places then none
          else (readEmbedded? cs).map fun last => (pieces ++ last, gap)
        | [] => some (pieces ++ [value], gap)
        | ':' :: [] => none
        | ':' :: rest => readPieces? fuel (pieces ++ [value]) gap rest
        | _ => none

/-- The eight pieces of an address: all written out, or with one gap of zeros. -/
def parse? (cs : List Char) : Option (List Nat) :=
  let start : Option (Option Nat × List Char) := match cs with
    | ':' :: ':' :: rest => some (some 0, rest)
    | ':' :: _ => none
    | cs => some (none, cs)
  match start with
  | none => none
  | some (gap, cs) =>
    match readPieces? (cs.length + 1) [] gap cs with
    | some (pieces, some g) =>
      some (pieces.take g ++ List.replicate (8 - pieces.length) 0 ++ pieces.drop g)
    | some (pieces, none) => if pieces.length = 8 then some pieces else none
    | none => none

/-- The start and the length of the longest run of zeros from a place on, the first one of equal
length. -/
def longestRun (index : Nat) (best : Nat × Nat) : List Nat → Nat × Nat
  | [] => best
  | 0 :: rest =>
    let n := 1 + (rest.takeWhile (· = 0)).length
    longestRun (index + 1) (if best.2 < n then (index, n) else best) rest
  | _ :: rest => longestRun (index + 1) best rest

/-- The pieces with colons between them. -/
def joined (pieces : List Nat) : List Char :=
  [':'].intercalate (pieces.map (Nat.toDigits 16))

/-- The text of an address: the longest run of two or more zeros is left out. -/
def text (pieces : List Nat) : List Char :=
  let (start, length) := longestRun 0 (0, 1) pieces
  if 2 ≤ length then
    joined (pieces.take start) ++ ':' :: ':' :: joined (pieces.drop (start + length))
  else joined pieces

end Address6

/-! ### Hosts -/

/-- The host of a URL. -/
inductive Host where
  | domain (name : String)
  | address4 (a : Nat)
  | address6 (pieces : List Nat)
  deriving DecidableEq, Repr

namespace Host

/-- The text of a host. -/
def text : Host → String
  | .domain name => name
  | .address4 a => String.ofList (Address4.text a)
  | .address6 pieces => String.ofList ('[' :: (Address6.text pieces ++ [']']))

/-- The address that a text stands for, behind its opening bracket. -/
def parseBracketed (cs : List Char) : Except UrlFault Host :=
  if cs.getLast? = some ']' then
    match Address6.parse? cs.dropLast with
    | some pieces => .ok (.address6 pieces)
    | none => .error .ipv6Address
  else .error .ipv6Address

/-- The host that a text stands for. -/
def parse (cs : List Char) : Except UrlFault Host :=
  match cs with
  | '[' :: rest => parseBracketed rest
  | _ =>
    match Domain.toAscii? (Percent.decode cs) with
    | none => .error .domainName
    | some [] => .error .emptyHost
    | some name =>
      if Address4.endsInNumber name then
        match Address4.parse? name with
        | some a => .ok (.address4 a)
        | none => .error .ipv4Address
      else .ok (.domain (String.ofList name))

end Host

end PrintClient.Url
