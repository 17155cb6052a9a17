import PrintClient.Text.Utf8

/-!
# Percent-encoding

Bytes that a part of a URL cannot hold as they are stand there as a percent sign with two
hexadecimal digits. Each part has a set of ASCII characters of its own that are encoded; everything
outside the printable ASCII range always is.

* `encode`: a text for a part of a URL;
* `decode`: the bytes that an encoded text stands for.
-/

namespace PrintClient.Url.Percent

/-- The printable ASCII characters that are encoded in a part of a URL, beside all other characters.
-/
abbrev EncodeSet := List Char

/-- The fragment. -/
def fragmentSet : EncodeSet := [' ', '\x22', '<', '>', '\x60']

/-- The query of a URL for the web. -/
def querySet : EncodeSet := [' ', '\x22', '#', '<', '>', '\x27']

/-- One segment of the path of a URL for the web. -/
def segmentSet : EncodeSet :=
  [' ', '\x22', '#', '<', '>', '?', '\x60', '\x7b', '\x7d', '/', '%', '\\']

/-- The user name and the password. -/
def userSet : EncodeSet :=
  [' ', '\x22', '#', '<', '>', '?', '\x60', '\x7b', '\x7d', '/', ':', ';', '=', '@', '[', '\\', ']',
    '^', '|']

/-- A hexadecimal digit in upper case. -/
def hexDigit (n : Nat) : Char := (Nat.digitChar n).toUpper

/-- One byte. -/
def encodeByte (set : EncodeSet) (b : UInt8) : List Char :=
  let c := Char.ofNat b.toNat
  if b < 0x20 ∨ 0x7e < b ∨ c ∈ set then ['%', hexDigit (b.toNat / 16), hexDigit (b.toNat % 16)]
  else [c]

/-- The bytes of a text, each as it stands or encoded. -/
def encodeChars (set : EncodeSet) (cs : List Char) : List Char :=
  (cs.flatMap String.utf8EncodeChar).flatMap (encodeByte set)

/-- A text for a part of a URL. -/
def encode (set : EncodeSet) (s : String) : String := String.ofList (encodeChars set s.toList)

/-- The value of a hexadecimal digit. -/
def hexValue? (b : UInt8) : Option UInt8 :=
  if 0x30 ≤ b ∧ b ≤ 0x39 then some (b - 0x30)
  else if 0x61 ≤ b ∧ b ≤ 0x66 then some (b - 0x57)
  else if 0x41 ≤ b ∧ b ≤ 0x46 then some (b - 0x37)
  else none

/-- The bytes that some bytes stand for; a percent sign without two digits stands for itself. -/
def decodeBytes : List UInt8 → List UInt8
  | 0x25 :: h :: l :: rest =>
    match hexValue? h, hexValue? l with
    | some hv, some lv => (hv * 16 + lv) :: decodeBytes rest
    | _, _ => 0x25 :: decodeBytes (h :: l :: rest)
  | b :: rest => b :: decodeBytes rest
  | [] => []

/-- The bytes that a text stands for. -/
def decode (cs : List Char) : List UInt8 := decodeBytes (cs.flatMap String.utf8EncodeChar)

end PrintClient.Url.Percent
