import PrintClient.Decimal.Reading
import PrintClient.Json.Value

/-!
# Tokens of JSON text

`tokens` cuts a text into tokens and stops at the first character that begins none, marking the
place by `invalid`, so that a reader of the tokens meets a fault of the text only when it gets
there. A string with half a surrogate pair and a number too large for the format are tokens without
a value: they are faults only where the value is wanted.

* `Lexeme`: the parts of a number, and `Lexeme.number?`, its value;
* `scanString`, `joinPieces`: the body of a string and its characters;
* `tokens`: the whole text.
-/

namespace PrintClient.Json

/-- A token of JSON text. -/
inductive Token where
  | openBrace
  | closeBrace
  | openBracket
  | closeBracket
  | comma
  | colon
  | null
  | bool (b : Bool)
  | number (n : Option Number)
  | string (s : Option String)
  | invalid
  deriving DecidableEq

/-! ### Numbers -/

/-- The written parts of a number. -/
structure Lexeme where
  negative : Bool
  whole : List Char
  fraction : List Char
  exponent : Option Int
  deriving DecidableEq, Repr

/-- The value of a digit. -/
def digitValue (c : Char) : Nat := c.toNat - 48

/-- Adds digits to a significand as long as it fits into 64 bits; returns the digits left over. -/
def fitDigits (acc : Nat) : List Char → Nat × List Char
  | [] => (acc, [])
  | c :: rest =>
    let next := acc * 10 + digitValue c
    if next < UInt64.size then fitDigits next rest else (acc, c :: rest)

/-- The number with a fraction, an exponent, or too many digits: whole digits that do not fit count
as powers of ten, further fraction digits do not count at all. -/
def Lexeme.real? (l : Lexeme) : Option Binary64 :=
  let (significand, excess) := fitDigits 0 l.whole
  let (significand, unread) := fitDigits significand l.fraction
  let shift : Int := excess.length - (l.fraction.length - unread.length : Nat)
  (Binary64.scaled? significand (shift + l.exponent.getD 0)).map fun x =>
    if l.negative then x.neg else x

/-- The value of a number: whole numbers of 64 bits are kept exactly, all others are rounded, and
`-0` is the negative zero of the floating-point numbers. -/
def Lexeme.number? (l : Lexeme) : Option Number :=
  if l.fraction = [] ∧ l.exponent = none then
    let (n, excess) := fitDigits 0 l.whole
    let i : Int := if l.negative then -n else n
    match excess, WideInt.ofInt? i with
    | [], some w =>
      if l.negative ∧ n = 0 then some (.real (.zero true)) else some (.integer w)
    | _, _ => l.real?.map .real
  else l.real?.map .real

/-- The exponent part, if there is one; `none` if it lacks digits. -/
def scanExponent (l : Lexeme) : List Char → Option (Lexeme × List Char)
  | c :: rest =>
    if c = 'e' ∨ c = 'E' then
      let (negative, rest) := match rest with
        | '+' :: r => (false, r)
        | '-' :: r => (true, r)
        | r => (false, r)
      let (ds, after) := rest.span Char.isDigit
      if ds = [] then none
      else
        let n : Int := (ds.foldl (fun n d => n * 10 + digitValue d) 0 : Nat)
        some ({ l with exponent := some (if negative then -n else n) }, after)
    else some (l, c :: rest)
  | [] => some (l, [])

/-- The fraction part, if there is one, and what follows it. -/
def scanFraction (l : Lexeme) : List Char → Option (Lexeme × List Char)
  | '.' :: rest =>
    let (ds, after) := rest.span Char.isDigit
    if ds = [] then none else scanExponent { l with fraction := ds } after
  | rest => scanExponent l rest

/-- A number after its sign: no zero in front of another digit. -/
def scanNumber (negative : Bool) (cs : List Char) : Option (Lexeme × List Char) :=
  match cs.span Char.isDigit with
  | ([], _) => none
  | ('0' :: _ :: _, _) => none
  | (ds, after) => scanFraction ⟨negative, ds, [], none⟩ after

/-! ### Strings -/

/-- A part of a string: a character as it stands, or a code unit written by number. -/
inductive Piece where
  | char (c : Char)
  | unit (n : Nat)
  deriving DecidableEq, Repr

/-- The value of a hexadecimal digit. -/
def hexValue? (c : Char) : Option Nat :=
  if '0' ≤ c ∧ c ≤ '9' then some (c.toNat - 48)
  else if 'a' ≤ c ∧ c ≤ 'f' then some (c.toNat - 87)
  else if 'A' ≤ c ∧ c ≤ 'F' then some (c.toNat - 55)
  else none

/-- The code unit of four hexadecimal digits. -/
def unit? (a b c d : Char) : Option Nat := do
  let a ← hexValue? a
  let b ← hexValue? b
  let c ← hexValue? c
  let d ← hexValue? d
  some (((a * 16 + b) * 16 + c) * 16 + d)

/-- The character of a short escape. -/
def shortEscape? (c : Char) : Option Char :=
  if c = '\x22' ∨ c = '\\' ∨ c = '/' then some c
  else if c = 'b' then some '\x08'
  else if c = 'f' then some '\x0c'
  else if c = 'n' then some '\n'
  else if c = 'r' then some '\r'
  else if c = 't' then some '\t'
  else none

/-- The pieces of a string up to its closing quote mark, in reverse, and the rest of the text;
`none` for an unknown escape, a raw control character and a string without an end. -/
def scanString (acc : List Piece) : List Char → Option (List Piece × List Char)
  | [] => none
  | '\\' :: 'u' :: a :: b :: c :: d :: rest =>
    match unit? a b c d with
    | some n => scanString (.unit n :: acc) rest
    | none => none
  | '\\' :: e :: rest =>
    match shortEscape? e with
    | some c => scanString (.char c :: acc) rest
    | none => none
  | c :: rest =>
    if c = '\x22' then some (acc, rest)
    else if c = '\\' ∨ c.toNat < 32 then none
    else scanString (.char c :: acc) rest

/-- The characters of the pieces, given in reverse; two code units that are a surrogate pair are one
character, a lone half of a pair is none. The second argument holds the characters after the pieces.
-/
def joinPieces (after : List Char) : List Piece → Option (List Char)
  | [] => some after
  | .char c :: before => joinPieces (c :: after) before
  | .unit n :: before =>
    if 0xDC00 ≤ n ∧ n ≤ 0xDFFF then
      match before with
      | .unit h :: before =>
        if 0xD800 ≤ h ∧ h ≤ 0xDBFF then
          joinPieces (Char.ofNat (0x10000 + (h - 0xD800) * 0x400 + (n - 0xDC00)) :: after) before
        else none
      | _ => none
    else if 0xD800 ≤ n ∧ n ≤ 0xDBFF then none
    else joinPieces (Char.ofNat n :: after) before

/-! ### The whole text -/

/-- The blanks between tokens. -/
def isBlank (c : Char) : Bool := c = ' ' || c = '\n' || c = '\t' || c = '\r'

/-- The token that begins with a character, and the rest of the text. -/
def scanToken (c : Char) (rest : List Char) : Token × List Char :=
  if c = '\x7b' then (.openBrace, rest)
  else if c = '\x7d' then (.closeBrace, rest)
  else if c = '[' then (.openBracket, rest)
  else if c = ']' then (.closeBracket, rest)
  else if c = ',' then (.comma, rest)
  else if c = ':' then (.colon, rest)
  else if c = '\x22' then
    match scanString [] rest with
    | some (pieces, after) => (.string ((joinPieces [] pieces).map String.ofList), after)
    | none => (.invalid, [])
  else if c = '-' then
    match scanNumber true rest with
    | some (l, after) => (.number l.number?, after)
    | none => (.invalid, [])
  else if c.isDigit then
    match scanNumber false (c :: rest) with
    | some (l, after) => (.number l.number?, after)
    | none => (.invalid, [])
  else match c :: rest with
    | 'n' :: 'u' :: 'l' :: 'l' :: after => (.null, after)
    | 't' :: 'r' :: 'u' :: 'e' :: after => (.bool true, after)
    | 'f' :: 'a' :: 'l' :: 's' :: 'e' :: after => (.bool false, after)
    | _ => (.invalid, [])

/-- The tokens of a text of at most `fuel` characters, put in reverse before `acc`. -/
def scanTokens : Nat → List Token → List Char → List Token
  | 0, acc, _ => acc
  | _, acc, [] => acc
  | fuel + 1, acc, c :: rest =>
    if isBlank c then scanTokens fuel acc rest
    else match scanToken c rest with
      | (.invalid, _) => .invalid :: acc
      | (t, after) => scanTokens fuel (t :: acc) after

/-- The tokens of a text, up to the first character that begins none. -/
def tokens (s : String) : List Token :=
  let cs := s.toList
  (scanTokens cs.length [] cs).reverse

end PrintClient.Json
