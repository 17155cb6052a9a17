import PrintClient.Config.Setting
import PrintClient.Decimal.Reading
import PrintClient.Text.Escape

/-!
# Strings, numbers and dates of TOML text

Readers for the values of a TOML document that hold no other values. Each takes the characters from
the value on and returns the value with the characters after it, or `none` if they do not begin with
one.

* `readString?`: the four kinds of strings;
* `readNumber?`: whole numbers in four bases, and floating-point numbers;
* `readDate?`: dates, times and both together.
-/

namespace PrintClient.Toml

open Config (Setting RealNumber)

/-! ### Blanks and ends of lines -/

/-- The characters after blanks within a line. -/
def skipBlanks (cs : List Char) : List Char := cs.dropWhile fun c => c = ' ' || c = '\t'

/-- The characters after the end of a line. -/
def lineEnd? : List Char → Option (List Char)
  | '\n' :: rest => some rest
  | '\r' :: '\n' :: rest => some rest
  | _ => none

/-- The characters after a comment, if there is one. -/
def skipComment : List Char → List Char
  | '#' :: rest => rest.dropWhile Text.isPlainChar
  | cs => cs

/-! ### Strings -/

/-- The number of quote marks in front. -/
def quoteRun (q : Char) (cs : List Char) : Nat := (cs.takeWhile (· = q)).length

/-- The characters after the blanks and line ends that follow a backslash at the end of a line. -/
def skipLines (cs : List Char) : List Char :=
  cs.dropWhile fun c => c = ' ' || c = '\t' || c = '\n' || c = '\r'

/-- The body of a string over several lines, which ends at three quote marks `q`; up to two more
quote marks before them belong to the string. Escapes count only where `escapes` holds. -/
def readLines? (q : Char) (escapes : Bool) :
    Nat → List Char → List Char → Option (String × List Char)
  | 0, _, _ => none
  | _, _, [] => none
  | fuel + 1, acc, c :: rest =>
    if c = q then
      let n := quoteRun q (c :: rest)
      if n < 3 then readLines? q escapes fuel (c :: acc) rest
      else
        let own := min (n - 3) 2
        some (String.ofList (acc.reverse ++ List.replicate own q), rest.drop (own + 2))
    else if c = '\\' ∧ escapes then
      match lineEnd? (skipBlanks rest) with
      | some after => readLines? q escapes fuel acc (skipLines after)
      | none =>
        match Text.unescape? rest with
        | some (e, rest) => readLines? q escapes fuel (e :: acc) rest
        | none => none
    else
      match lineEnd? (c :: rest) with
      | some after => readLines? q escapes fuel ('\n' :: acc) after
      | none =>
        if Text.isPlainChar c then readLines? q escapes fuel (c :: acc) rest else none

/-- A string over several lines after its opening marks; a line end right after them does not count.
-/
def readLong? (q : Char) (escapes : Bool) (cs : List Char) : Option (String × List Char) :=
  let body := (lineEnd? cs).getD cs
  readLines? q escapes (body.length + 1) [] body

/-- A string between single quote marks, after the opening one. -/
def readLiteral? (cs : List Char) : Option (String × List Char) :=
  let inside (c : Char) : Bool := Text.isPlainChar c && c != '\x27'
  match cs.dropWhile inside with
  | '\x27' :: rest => some (String.ofList (cs.takeWhile inside), rest)
  | _ => none

/-- A string. -/
def readString? : List Char → Option (String × List Char)
  | '\x22' :: '\x22' :: '\x22' :: rest => readLong? '\x22' true rest
  | '\x22' :: rest => Text.unquote? rest
  | '\x27' :: '\x27' :: '\x27' :: rest => readLong? '\x27' false rest
  | '\x27' :: rest => readLiteral? rest
  | _ => none

/-! ### Numbers -/

/-- Digits with single underscores between them: the digits and the rest. -/
def readDigits? (isDigit : Char → Bool) : List Char → Option (List Char × List Char)
  | [] => none
  | [c] => if isDigit c then some ([c], []) else none
  | c :: '_' :: rest =>
    if isDigit c then (readDigits? isDigit rest).map fun (ds, after) => (c :: ds, after) else none
  | c :: d :: rest =>
    if isDigit c then
      if isDigit d then (readDigits? isDigit (d :: rest)).map fun (ds, after) => (c :: ds, after)
      else some ([c], d :: rest)
    else none

/-- A sign in front, if there is one, and the rest. -/
def readSign : List Char → Option Bool × List Char
  | '+' :: rest => (some false, rest)
  | '-' :: rest => (some true, rest)
  | cs => (none, cs)

/-- Digits of which the first is no zero unless it is the only one. -/
def readWhole? (cs : List Char) : Option (List Char × List Char) :=
  match cs with
  | '0' :: rest => some (['0'], rest)
  | _ => readDigits? Char.isDigit cs

/-- An exponent, after its letter. -/
def readExponent? (cs : List Char) : Option (Int × List Char) :=
  let (sign, cs) := readSign cs
  (readDigits? Char.isDigit cs).map fun (ds, rest) =>
    let n : Int := Binary64.digitsValue ds
    (if sign = some true then -n else n, rest)

/-- A floating-point number from its digits; one that is too large is refused unless it is negative.
-/
def realOf? (negative : Bool) (whole fraction : List Char) (exponent : Int) : Option RealNumber :=
  match Binary64.ofDigits? negative whole fraction exponent with
  | some x => some (.finite x)
  | none => if negative then some (.infinite true) else none

/-- A number with a fraction or an exponent. -/
def readReal? (cs : List Char) : Option (RealNumber × List Char) :=
  let (sign, cs) := readSign cs
  let negative := sign = some true
  match cs with
  | 'i' :: 'n' :: 'f' :: rest => some (.infinite negative, rest)
  | 'n' :: 'a' :: 'n' :: rest => some (.undefined, rest)
  | _ =>
    match readWhole? cs with
    | none => none
    | some (whole, rest) =>
      let withExponent (fraction : List Char) (rest : List Char) :
          Option (RealNumber × List Char) :=
        (readExponent? rest).bind fun (e, rest) => (realOf? negative whole fraction e).map (·, rest)
      match rest with
      | '.' :: rest =>
        match readDigits? Char.isDigit rest with
        | none => none
        | some (fraction, 'e' :: rest) => withExponent fraction rest
        | some (fraction, 'E' :: rest) => withExponent fraction rest
        | some (fraction, rest) => (realOf? negative whole fraction 0).map (·, rest)
      | 'e' :: rest => withExponent [] rest
      | 'E' :: rest => withExponent [] rest
      | _ => none

/-- The value of a digit in a base up to sixteen. -/
def digitIn? (base : Nat) (c : Char) : Option Nat :=
  let n := if '0' ≤ c ∧ c ≤ '9' then c.toNat - 48
    else if 'a' ≤ c ∧ c ≤ 'f' then c.toNat - 87
    else if 'A' ≤ c ∧ c ≤ 'F' then c.toNat - 55
    else 16
  if n < base then some n else none

/-- A whole number in another base, after the letter of the base. -/
def readBased? (base : Nat) (cs : List Char) : Option (Int × List Char) :=
  (readDigits? (fun c => (digitIn? base c).isSome) cs).map fun (ds, rest) =>
    ((ds.foldl (fun n d => n * base + (digitIn? base d).getD 0) 0 : Nat), rest)

/-- A whole number of any size. -/
def readInteger? : List Char → Option (Int × List Char)
  | '0' :: 'x' :: rest => readBased? 16 rest
  | '0' :: 'o' :: rest => readBased? 8 rest
  | '0' :: 'b' :: rest => readBased? 2 rest
  | cs =>
    let (sign, cs) := readSign cs
    (readWhole? cs).map fun (ds, rest) =>
      let n : Int := Binary64.digitsValue ds
      (if sign = some true then -n else n, rest)

/-- A number; a whole number must fit a signed word of 64 bits. -/
def readNumber? (cs : List Char) : Option (Setting × List Char) :=
  match readReal? cs with
  | some (x, rest) => some (.real x, rest)
  | none =>
    match readInteger? cs with
    | some (i, rest) => if Word.IsSigned i then some (.signed i, rest) else none
    | none => none

/-! ### Dates and times -/

/-- Exactly `n` digits within bounds: their value, the digits and the rest. -/
def readPart? (n low high : Nat) (cs : List Char) : Option (Nat × List Char × List Char) :=
  let ds := cs.take n
  let v := Binary64.digitsValue ds
  if ds.length = n ∧ ds.all Char.isDigit ∧ low ≤ v ∧ v ≤ high then some (v, ds, cs.drop n) else none

/-- One given character. -/
def expect? (c : Char) : List Char → Option (List Char)
  | d :: rest => if c = d then some rest else none
  | [] => none

/-- The number of days of a month. -/
def daysOf (year month : Nat) : Nat :=
  if month = 2 then
    if year % 4 = 0 ∧ (year % 100 ≠ 0 ∨ year % 400 = 0) then 29 else 28
  else if month = 4 ∨ month = 6 ∨ month = 9 ∨ month = 11 then 30
  else 31

/-- A day of the calendar. -/
def readDay? (cs : List Char) : Option (List Char × List Char) := do
  let (year, y, rest) ← readPart? 4 0 9999 cs
  let rest ← expect? '-' rest
  let (month, m, rest) ← readPart? 2 1 12 rest
  let rest ← expect? '-' rest
  let (_, d, rest) ← readPart? 2 1 (daysOf year month) rest
  some (y ++ '-' :: m ++ '-' :: d, rest)

/-- The fraction of a second in nine places, without zeros at its end, after a point. -/
def fractionText (ds : List Char) : List Char :=
  match ((ds.take 9).reverse.dropWhile (· = '0')).reverse with
  | [] => []
  | shown => '.' :: shown

/-- A time of the day. -/
def readTime? (cs : List Char) : Option (List Char × List Char) := do
  let (_, h, rest) ← readPart? 2 0 23 cs
  let rest ← expect? ':' rest
  let (_, m, rest) ← readPart? 2 0 59 rest
  let rest ← expect? ':' rest
  let (_, s, rest) ← readPart? 2 0 60 rest
  let clock := h ++ ':' :: m ++ ':' :: s
  match rest with
  | '.' :: after =>
    let ds := after.takeWhile Char.isDigit
    if ds = [] then none else some (clock ++ fractionText ds, after.dropWhile Char.isDigit)
  | _ => some (clock, rest)

/-- An offset from universal time, if there is one. -/
def readOffset? : List Char → Option (List Char × List Char)
  | 'Z' :: rest => some (['Z'], rest)
  | 'z' :: rest => some (['Z'], rest)
  | c :: rest =>
    if c = '+' ∨ c = '-' then do
      let (_, h, rest) ← readPart? 2 0 23 rest
      let rest ← expect? ':' rest
      let (_, m, rest) ← readPart? 2 0 59 rest
      some (c :: h ++ ':' :: m, rest)
    else some ([], c :: rest)
  | [] => some ([], [])

/-- Whether a character may stand between a day and a time. -/
def isDayEnd (c : Char) : Bool := c = 'T' || c = 't' || c = ' '

/-- The key under which a date appears where a table of settings is wanted. -/
def dateKey : String := "$__toml_private_datetime"

/-- A date, a time, or both, as a table with one entry. -/
def readDate? (cs : List Char) : Option (Setting × List Char) :=
  let date (text : List Char) : Setting := .table [(dateKey, .text (String.ofList text))]
  match readDay? cs with
  | some (day, rest) =>
    let time := match rest with
      | c :: after => if isDayEnd c then readTime? after else none
      | [] => none
    match time with
    | some (clock, rest) =>
      (readOffset? rest).map fun (offset, rest) => (date (day ++ 'T' :: clock ++ offset), rest)
    | none => some (date day, rest)
  | none => (readTime? cs).map fun (clock, rest) => (date clock, rest)

end PrintClient.Toml
