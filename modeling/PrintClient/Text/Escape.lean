/-!
# Texts between quote marks

A text between double quote marks, with escapes for quote marks, backslashes, some control
characters and any character by number. Raw control characters other than the tab are refused.
-/

namespace PrintClient.Text

/-- The value of a hexadecimal number of given length at the start, and the rest. -/
def hexNumber? : Nat → Nat → List Char → Option (Nat × List Char)
  | 0, acc, cs => some (acc, cs)
  | n + 1, acc, c :: rest =>
    if '0' ≤ c ∧ c ≤ '9' then hexNumber? n (acc * 16 + (c.toNat - 48)) rest
    else if 'a' ≤ c ∧ c ≤ 'f' then hexNumber? n (acc * 16 + (c.toNat - 87)) rest
    else if 'A' ≤ c ∧ c ≤ 'F' then hexNumber? n (acc * 16 + (c.toNat - 55)) rest
    else none
  | _ + 1, _, [] => none

/-- The character with a code point, unless it is a surrogate or too large. -/
def charOf? (n : Nat) : Option Char :=
  if n.isValidChar then some (Char.ofNat n) else none

/-- The character that an escape stands for, and the rest after it. -/
def unescape? : List Char → Option (Char × List Char)
  | 'u' :: rest => (hexNumber? 4 0 rest).bind fun (n, rest) => (charOf? n).map (·, rest)
  | 'U' :: rest => (hexNumber? 8 0 rest).bind fun (n, rest) => (charOf? n).map (·, rest)
  | c :: rest =>
    if c = '\x22' ∨ c = '\\' then some (c, rest)
    else if c = 'b' then some ('\x08', rest)
    else if c = 't' then some ('\t', rest)
    else if c = 'n' then some ('\n', rest)
    else if c = 'f' then some ('\x0c', rest)
    else if c = 'r' then some ('\r', rest)
    else none
  | [] => none

/-- Whether a character may stand for itself in a quoted text. -/
def isPlainChar (c : Char) : Bool := c = '\t' || (32 ≤ c.toNat && c.toNat != 127)

/-- A quoted text of at most `fuel` characters after its opening mark, added to the characters in
`acc`, which are in reverse; and the rest after the closing mark. -/
def unquoteFrom? : Nat → List Char → List Char → Option (String × List Char)
  | 0, _, _ => none
  | _, _, [] => none
  | fuel + 1, acc, c :: rest =>
    if c = '\x22' then some (String.ofList acc.reverse, rest)
    else if c = '\\' then
      match unescape? rest with
      | some (e, rest) => unquoteFrom? fuel (e :: acc) rest
      | none => none
    else if isPlainChar c then unquoteFrom? fuel (c :: acc) rest
    else none

/-- A quoted text after its opening mark, and the rest after the closing mark. -/
def unquote? (cs : List Char) : Option (String × List Char) := unquoteFrom? (cs.length + 1) [] cs

end PrintClient.Text
