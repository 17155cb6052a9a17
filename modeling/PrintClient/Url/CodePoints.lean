/-!
# Tables of code points

A table is a list of rows, and a row holds entries with blanks between them. An entry is a code
point or a range, perhaps with what it stands for: `a=b,c` gives one character others, `a-b=c` gives
the same to a whole range, `a-b+c` gives a range the range that starts at `c`, `a-b/2+c` every
second character of a range the one at the same distance from `c`, and nothing after the sign means
the empty list. All numbers are hexadecimal.

* `readRows`: the rules that some rows hold;
* `Rule.covers`, `Rule.apply`: what a rule is about and what it says.
-/

namespace PrintClient.Url

/-- An entry of a table: code points from `first` to `last` in steps, and what they stand for; in a
`moving` entry that moves along with the code point. -/
structure Rule where
  first : Nat
  last : Nat
  step : Nat
  target : List Nat
  moving : Bool

/-- The parts of a text between given characters. -/
def parts (sep : Char) (cs : List Char) : List (List Char) :=
  cs.foldr (fun c ps =>
    if c = sep then [] :: ps
    else match ps with
      | [] => [[c]]
      | p :: rest => (c :: p) :: rest) [[]]

namespace Rule

/-- The value of a hexadecimal number in lower case. -/
def hexNumber (cs : List Char) : Nat :=
  cs.foldl (fun n c => n * 16 + (if c.isDigit then c.toNat - 48 else c.toNat - 87)) 0

/-- A range with its step. -/
def readRange (cs : List Char) : Nat × Nat × Nat :=
  let (range, step) := match parts '/' cs with
    | [r, s] => (r, hexNumber s)
    | _ => (cs, 1)
  match parts '-' range with
  | [a, b] => (hexNumber a, hexNumber b, step)
  | _ => (hexNumber range, hexNumber range, step)

/-- One entry of a table. -/
def read (cs : List Char) : Rule :=
  let isSign (c : Char) : Bool := c = '=' || c = '+'
  let (first, last, step) := readRange (cs.takeWhile (!isSign ·))
  match cs.dropWhile (!isSign ·) with
  | sign :: target =>
    let codes := if target = [] then [] else (parts ',' target).map hexNumber
    ⟨first, last, step, codes, sign == '+'⟩
  | [] => ⟨first, last, step, [], false⟩

/-- Whether a rule is about a code point. -/
def covers (r : Rule) (n : Nat) : Bool :=
  r.first ≤ n && n ≤ r.last && (n - r.first) % r.step == 0

/-- What a rule gives a code point. -/
def apply (r : Rule) (n : Nat) : List Nat :=
  if r.moving then r.target.map (· + (n - r.first)) else r.target

end Rule

/-- The entries of some rows. -/
def readRows (rows : List String) : List Rule :=
  rows.flatMap fun row => (parts ' ' row.toList).map Rule.read

/-- Whether a table is about a character. No table is about the ASCII range. -/
def isListed (table : List Rule) (c : Char) : Bool :=
  128 ≤ c.toNat && table.any (·.covers c.toNat)

/-- What a table gives a character; `none` if the table is not about it. -/
def listing? (table : List Rule) (c : Char) : Option (List Nat) :=
  if c.toNat < 128 then none
  else (table.find? (·.covers c.toNat)).map (·.apply c.toNat)

end PrintClient.Url
