import PrintClient.Decimal.Layout
import PrintClient.Json.Value

/-!
# Writing JSON text

`compact` writes a value on one line without blanks, `pretty` with two blanks per level and one item
a line. Members come in the order of the object, so a value has exactly one compact text.
-/

namespace PrintClient.Json

/-- A hexadecimal digit in lower case. -/
def hexDigit (n : Nat) : Char := (Nat.digitChar n)

/-- One character inside a string: the quote mark, the backslash and the control characters below
the blank are escaped, all others stand as they are. -/
def escapeChar (c : Char) : List Char :=
  if c = '\x22' ∨ c = '\\' then ['\\', c]
  else if c = '\x08' then ['\\', 'b']
  else if c = '\x0c' then ['\\', 'f']
  else if c = '\n' then ['\\', 'n']
  else if c = '\r' then ['\\', 'r']
  else if c = '\t' then ['\\', 't']
  else if c.toNat < 32 then ['\\', 'u', '0', '0', hexDigit (c.toNat / 16), hexDigit (c.toNat % 16)]
  else [c]

/-- A string with its quote marks. -/
def stringChars (s : String) : List Char :=
  '\x22' :: (s.toList.flatMap escapeChar ++ ['\x22'])

/-- A number. -/
def numberChars : Number → List Char
  | .integer i => (toString i.toInt).toList
  | .real x => Decimal.renderChars .json x

/-- A value without inner values. -/
def boolChars (b : Bool) : List Char := (if b then "true" else "false").toList

mutual
/-- A value on one line. -/
def compactChars : Json → List Char
  | .null => ['n', 'u', 'l', 'l']
  | .bool b => boolChars b
  | .number n => numberChars n
  | .string s => stringChars s
  | .array [] => ['[', ']']
  | .array (v :: vs) => '[' :: (compactChars v ++ (compactItems vs ++ [']']))
  | .object [] => ['\x7b', '\x7d']
  | .object ((k, v) :: ms) =>
    '\x7b' :: (stringChars k ++ ':' :: (compactChars v ++ (compactMembers ms ++ ['\x7d'])))

/-- Further items, each after a comma. -/
def compactItems : List Json → List Char
  | [] => []
  | v :: vs => ',' :: (compactChars v ++ compactItems vs)

/-- Further members, each after a comma. -/
def compactMembers : List (String × Json) → List Char
  | [] => []
  | (k, v) :: ms => ',' :: (stringChars k ++ ':' :: (compactChars v ++ compactMembers ms))
end

/-- The blanks at the start of a line. -/
def indent (level : Nat) : List Char := '\n' :: List.replicate (2 * level) ' '

mutual
/-- A value over several lines, its inner values at `level + 1`. -/
def prettyChars (level : Nat) : Json → List Char
  | .null => ['n', 'u', 'l', 'l']
  | .bool b => boolChars b
  | .number n => numberChars n
  | .string s => stringChars s
  | .array [] => ['[', ']']
  | .array (v :: vs) =>
    '[' :: (indent (level + 1) ++ prettyChars (level + 1) v ++
      (prettyItems (level + 1) vs ++ (indent level ++ [']'])))
  | .object [] => ['\x7b', '\x7d']
  | .object ((k, v) :: ms) =>
    '\x7b' :: (indent (level + 1) ++ stringChars k ++ ':' :: ' ' :: (prettyChars (level + 1) v ++
      (prettyMembers (level + 1) ms ++ (indent level ++ ['\x7d']))))

/-- Further items, each after a comma on a line of its own. -/
def prettyItems (level : Nat) : List Json → List Char
  | [] => []
  | v :: vs => ',' :: (indent level ++ prettyChars level v ++ prettyItems level vs)

/-- Further members, each after a comma on a line of its own. -/
def prettyMembers (level : Nat) : List (String × Json) → List Char
  | [] => []
  | (k, v) :: ms =>
    ',' :: (indent level ++ stringChars k ++ ':' :: ' ' :: (prettyChars level v ++
      prettyMembers level ms))
end

/-- A value on one line. -/
def compact (v : Json) : String := String.ofList (compactChars v)

/-- A value over several lines. -/
def pretty (v : Json) : String := String.ofList (prettyChars 0 v)

end PrintClient.Json
