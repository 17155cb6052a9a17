import PrintClient.Text.Utf8
import PrintClient.Url.DomainTable
import PrintClient.Url.Joining
import PrintClient.Url.Punycode

/-!
# Domain names

A domain name is compared and sent in ASCII: letters in lower case, every label with other
characters as `xn--` and its letters and digits. Names that no such form exists for, or that hold a
character with a meaning elsewhere in a URL, are refused.

* `foldChar`: what one character is replaced by;
* `readLabel?`: a label in both of its forms;
* `toAscii?`: the ASCII form of a name.
-/

namespace PrintClient.Url.Domain

/-! ### Characters -/

/-- The rules for replaced characters. -/
def foldings : List Rule := readRows foldingRows

/-- The rules for refused characters. -/
def refusals : List Rule := readRows refusedRows

/-- The rules for characters that combine with the one before. -/
def marks : List Rule := readRows markRows

/-- What a character is replaced by. -/
def foldChar (c : Char) : List Char :=
  if c.toNat < 128 then [c.toLower]
  else match listing? foldings c with
    | some codes => codes.map Char.ofNat
    | none => [c]

/-- Whether a character is refused in a name: one that the tables refuse, the replacement character,
or an ASCII character that ends a name or has a meaning elsewhere in a URL. -/
def isRefused (c : Char) : Bool :=
  if c.toNat < 128 then
    c.toNat ≤ 32 || c.toNat == 127 ||
      ['%', '#', '/', ':', '<', '>', '?', '@', '[', '\\', ']', '^', '|'].contains c
  else c == Text.replacement || isListed refusals c

/-- Whether a character combines with the one before. -/
def isMark (c : Char) : Bool := isListed marks c

/-- The folded and composed form of a text. -/
def fold (cs : List Char) : List Char := compose (cs.flatMap foldChar)

/-! ### Labels and names -/

/-- A label in its two forms: with all characters as they are, and in ASCII. -/
structure Label where
  full : List Char
  ascii : List Char
  deriving DecidableEq, Repr

/-- The characters that a label in letters and digits begins with. -/
def encodedStart : List Char := ['x', 'n', '-', '-']

/-- Whether a folded label may stand in a name: no character combines with something before it, and
joiners stand where they may. -/
def isSound (cs : List Char) : Bool :=
  (match cs.head? with | some c => !isMark c | none => true) && joinersFit cs

/-- Whether a label can be what an encoded one stands for: something other than ASCII, which folding
leaves as it is. -/
def isEncodable (cs : List Char) : Bool :=
  cs.any (128 ≤ ·.toNat) && fold cs == cs && !cs.any isRefused && isSound cs

/-- A folded label in both forms. -/
def readLabel? (cs : List Char) : Option Label :=
  if cs.all (·.toNat < 128) then
    if cs.take 4 = encodedStart then
      match Punycode.decode? (cs.drop 4) with
      | some points =>
        let full := points.map Char.ofNat
        if isEncodable full then some ⟨full, cs⟩ else none
      | none => none
    else some ⟨cs, cs⟩
  else if cs.take 4 = encodedStart then none
  else if isSound cs then some ⟨cs, encodedStart ++ Punycode.encode (cs.map Char.toNat)⟩
  else none

/-- The ASCII form of a name given as bytes. -/
def toAscii? (bytes : List UInt8) : Option (List Char) :=
  let folded := fold (Text.ofUtf8 bytes).toList
  if folded.any isRefused then none
  else
    match (parts '.' folded).mapM readLabel? with
    | some labels =>
      if directionsFit (labels.map Label.full) then
        some (['.'].intercalate (labels.map Label.ascii))
      else none
    | none => none

end PrintClient.Url.Domain
