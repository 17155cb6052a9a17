/-!
# Texts as bytes

`utf8` is the encoding of a text, `ofUtf8` the reading of any bytes: where they are no encoded
character, the longest start of one, or else a single byte, becomes a replacement character.

* `utf8`, `ofUtf8`: both directions;
* `isUtf8`: whether bytes are the encoding of a text;
* `ofLatin1`: the text whose code points are the given bytes.
-/

namespace PrintClient.Text

/-- The encoding of a text. -/
def utf8 (s : String) : List UInt8 := s.toList.flatMap String.utf8EncodeChar

/-- The character that stands for bytes which are none. -/
def replacement : Char := '\ufffd'

/-- Whether a byte continues a character. -/
def isContinuation (b : UInt8) : Bool := 0x80 ≤ b && b ≤ 0xbf

/-- The payload of a continuation byte. -/
def payload (b : UInt8) : Nat := b.toNat % 64

/-- The bounds of the second byte after a first byte of three. -/
def secondOfThree (b : UInt8) : UInt8 × UInt8 :=
  if b = 0xe0 then (0xa0, 0xbf) else if b = 0xed then (0x80, 0x9f) else (0x80, 0xbf)

/-- The bounds of the second byte after a first byte of four. -/
def secondOfFour (b : UInt8) : UInt8 × UInt8 :=
  if b = 0xf0 then (0x90, 0xbf) else if b = 0xf4 then (0x80, 0x8f) else (0x80, 0xbf)

/-- The first character of some bytes, if they begin with one, and the number of bytes that it
takes, or that are to be replaced together. -/
def firstChar (b : UInt8) (rest : List UInt8) : Option Char × Nat :=
  if b < 0x80 then (some (Char.ofNat b.toNat), 1)
  else if 0xc2 ≤ b ∧ b ≤ 0xdf then
    match rest with
    | c :: _ =>
      if isContinuation c then (some (Char.ofNat (b.toNat % 32 * 64 + payload c)), 2) else (none, 1)
    | [] => (none, 1)
  else if 0xe0 ≤ b ∧ b ≤ 0xef then
    let (low, high) := secondOfThree b
    match rest with
    | c :: rest =>
      if low ≤ c ∧ c ≤ high then
        match rest with
        | d :: _ =>
          if isContinuation d then
            (some (Char.ofNat ((b.toNat % 16 * 64 + payload c) * 64 + payload d)), 3)
          else (none, 2)
        | [] => (none, 2)
      else (none, 1)
    | [] => (none, 1)
  else if 0xf0 ≤ b ∧ b ≤ 0xf4 then
    let (low, high) := secondOfFour b
    match rest with
    | c :: rest =>
      if low ≤ c ∧ c ≤ high then
        match rest with
        | d :: rest =>
          if isContinuation d then
            match rest with
            | e :: _ =>
              if isContinuation e then
                (some (Char.ofNat
                  (((b.toNat % 8 * 64 + payload c) * 64 + payload d) * 64 + payload e)), 4)
              else (none, 3)
            | [] => (none, 3)
          else (none, 2)
        | [] => (none, 2)
      else (none, 1)
    | [] => (none, 1)
  else (none, 1)

/-- The characters of at most `fuel` bytes, `none` for each replaced stretch. -/
def decodeWithin : Nat → List UInt8 → List (Option Char)
  | 0, _ => []
  | _, [] => []
  | fuel + 1, b :: rest =>
    let (c, n) := firstChar b rest
    c :: decodeWithin fuel (rest.drop (n - 1))

/-- The characters of some bytes, `none` for each stretch that is no character. -/
def decode (bytes : List UInt8) : List (Option Char) := decodeWithin bytes.length bytes

/-- The text of some bytes, with replacement characters where they are no text. -/
def ofUtf8 (bytes : List UInt8) : String :=
  String.ofList ((decode bytes).map fun c => c.getD replacement)

/-- Whether bytes are the encoding of a text. -/
def isUtf8 (bytes : List UInt8) : Bool := (decode bytes).all Option.isSome

/-- The text whose code points are the given bytes. -/
def ofLatin1 (bytes : List UInt8) : String :=
  String.ofList (bytes.map fun b => Char.ofNat b.toNat)

end PrintClient.Text
