import PrintClient.Config.Setting
import PrintClient.Decimal.Reading
import PrintClient.Text.Blank
import PrintClient.Text.Escape
import PrintClient.Text.Utf8

/-!
# Settings from environment variables

A variable whose name begins with `REPLINK_`, in any case, names a setting: the rest of the name in
lower case, two underscores separating the keys of a path. Its text is read as a value with a type
of its own, without knowledge of what the setting is for; a text that is no such value is taken as
it stands. Variables are laid over each other in the order in which the program was given them.

* `settingPath?`: the path that a variable names;
* `readSetting`: the value that a text stands for;
* `ofEnvironment`: all the variables laid over each other.
-/

namespace PrintClient.Config

/-- The environment variables of a program with their names, in the order in which it was given
them. -/
abbrev Environment := List (String × String)

/-- The stretches of bytes between zero bytes. -/
def splitAtZero (bytes : List UInt8) : List (List UInt8) :=
  bytes.foldr (fun b stretches =>
    if b = 0 then [] :: stretches
    else match stretches with
      | [] => [[b]]
      | stretch :: rest => (b :: stretch) :: rest) [[]]

/-- The text that some bytes encode, if they do. -/
def textOf? (bytes : List UInt8) : Option String :=
  let s := Text.ofUtf8 bytes
  if Text.utf8 s = bytes then some s else none

/-- A variable from its bytes: its name, which is not empty, up to an equals sign, and its value. -/
def variableOf? : List UInt8 → Option (String × String)
  | [] => none
  | first :: rest =>
    match rest.span fun b => b ≠ 0x3d with
    | (name, _ :: value) => do return (← textOf? (first :: name), ← textOf? value)
    | _ => none

/-- The variables of a block of bytes in which each one ends with a zero byte. -/
def Environment.ofBlock (bytes : List UInt8) : Environment :=
  (splitAtZero bytes).filterMap variableOf?

/-! ### Names -/

/-- What the names of the program's own variables begin with. -/
def variableStart : List Char := "replink_".toList

/-- Two underscores in a row become one point, from left to right. -/
def pointed : List Char → List Char
  | '_' :: '_' :: rest => '.' :: pointed rest
  | c :: rest => c :: pointed rest
  | [] => []

/-- The keys between the points. -/
def keysOf (cs : List Char) : List (List Char) :=
  cs.foldr (fun c keys =>
    if c = '.' then [] :: keys
    else match keys with
      | [] => [[c]]
      | key :: rest => (c :: key) :: rest) [[]]

/-- The path of keys that a variable names; `none` if the variable is not one of the program's or if
a key is empty. Blanks around the name, with or without what it begins with, do not belong to it. -/
def settingPath? (name : String) : Option (List String) :=
  let cs := (Text.trimChars name.toList).map Char.toLower
  if cs.take variableStart.length = variableStart then
    let keys := keysOf (Text.trimChars (pointed (cs.drop variableStart.length)))
    if keys.any List.isEmpty then none else some (keys.map String.ofList)
  else none

/-! ### Numbers -/

/-- A sign in front, and the rest. -/
def signOf : List Char → Bool × List Char
  | '+' :: rest => (false, rest)
  | '-' :: rest => (true, rest)
  | cs => (false, cs)

/-- The exponent of a decimal: nothing, or the letter with an optional sign and digits up to the
end. -/
def exponentOf? : List Char → Option Int
  | [] => some 0
  | c :: rest =>
    if c = 'e' ∨ c = 'E' then
      let (negative, ds) := signOf rest
      if ds ≠ [] ∧ ds.all Char.isDigit then
        let n : Int := Binary64.digitsValue ds
        some (if negative then -n else n)
      else none
    else none

/-- A decimal with a point, digits on at least one side of it, and perhaps an exponent. -/
def readReal? (cs : List Char) : Option RealNumber :=
  let (negative, cs) := signOf cs
  let whole := cs.takeWhile Char.isDigit
  match cs.dropWhile Char.isDigit with
  | '.' :: rest =>
    let fraction := rest.takeWhile Char.isDigit
    if whole = [] ∧ fraction = [] then none
    else (exponentOf? (rest.dropWhile Char.isDigit)).map fun e =>
      match Binary64.ofDigits? negative whole fraction e with
      | some x => .finite x
      | none => .infinite negative
  | _ => none

/-- A whole number without a minus sign that fits an unsigned word of 64 bits. -/
def readUnsigned? (cs : List Char) : Option Nat :=
  let ds := match cs with
    | '+' :: rest => rest
    | _ => cs
  if ds ≠ [] ∧ ds.all Char.isDigit then
    let n := Binary64.digitsValue ds
    if n < UInt64.size then some n else none
  else none

/-- A whole number that fits a signed word of 64 bits. -/
def readSigned? (cs : List Char) : Option Int :=
  let (negative, ds) := signOf cs
  if ds ≠ [] ∧ ds.all Char.isDigit then
    let n := Binary64.digitsValue ds
    let i : Int := if negative then -n else n
    if Word.IsSigned i then some i else none
  else none

/-- A value without marks of its own: a number if it reads as one, else a text. -/
def readPlain (cs : List Char) : Setting :=
  match if '.' ∈ cs then readReal? cs else none with
  | some x => .real x
  | none =>
    match readUnsigned? cs with
    | some n => .unsigned n
    | none =>
      match readSigned? cs with
      | some i => .signed i
      | none => .text (String.ofList cs)

/-! ### Values -/

/-- Whether a blank of plain text. -/
def isSpace (c : Char) : Bool := c = ' ' || c = '\t' || c = '\n' || c = '\r' || c = '\x0c'

/-- Whether a character may be part of a key without quote marks. -/
def isKeyChar (c : Char) : Bool := c.isAlphanum || c = '_' || c = '-'

/-- Whether a character ends a value without marks of its own. -/
def isSeparator (c : Char) : Bool :=
  c = ',' || c = '\x7b' || c = '\x7d' || c = '[' || c = ']'

/-- A key, quoted or not, and the rest. -/
def readKey? (cs : List Char) : Option (String × List Char) :=
  match cs with
  | '\x22' :: rest => Text.unquote? rest
  | _ =>
    if cs.takeWhile isKeyChar = [] then none
    else some (String.ofList (cs.takeWhile isKeyChar), cs.dropWhile isKeyChar)

mutual
/-- A value and the rest; `fuel` bounds the number of values read. -/
def readValue? (fuel : Nat) (cs : List Char) : Option (Setting × List Char) :=
  match fuel with
  | 0 => none
  | fuel + 1 =>
    let parsed : Option (Setting × List Char) :=
      match cs.dropWhile isSpace with
      | 't' :: 'r' :: 'u' :: 'e' :: rest => some (.truth true, rest)
      | 'f' :: 'a' :: 'l' :: 's' :: 'e' :: rest => some (.truth false, rest)
      | '\x7b' :: rest => (readEntries? fuel [] rest).map fun (es, rest) => (.table es, rest)
      | '[' :: rest => (readItems? fuel [] rest).map fun (vs, rest) => (.list vs, rest)
      | '\x22' :: rest =>
        (Text.unquote? rest).map fun (s, rest) => (.text s, rest)
      | '\x27' :: c :: '\x27' :: rest => some (.text (String.singleton c), rest)
      | '\x27' :: _ => none
      | plain =>
        some (readPlain (Text.trimChars (plain.takeWhile (!isSeparator ·))),
          plain.dropWhile (!isSeparator ·))
    parsed.map fun (v, rest) => (v, rest.dropWhile isSpace)

/-- The items of a list up to its closing bracket, added to those in `acc`, which are in reverse. -/
def readItems? (fuel : Nat) (acc : List Setting) (cs : List Char) :
    Option (List Setting × List Char) :=
  match fuel with
  | 0 => none
  | fuel + 1 =>
    match cs with
    | ']' :: rest => some (acc.reverse, rest)
    | _ =>
      match readValue? fuel cs with
      | some (v, ',' :: rest) => readItems? fuel (v :: acc) rest
      | some (v, ']' :: rest) => some ((v :: acc).reverse, rest)
      | _ => none

/-- The entries of a table up to its closing brace, entered into those already read. -/
def readEntries? (fuel : Nat) (acc : Dict Setting) (cs : List Char) :
    Option (Dict Setting × List Char) :=
  match fuel with
  | 0 => none
  | fuel + 1 =>
    match cs with
    | '\x7d' :: rest => some (acc, rest)
    | _ =>
      match readKey? (cs.dropWhile isSpace) with
      | none => none
      | some (key, rest) =>
        match rest.dropWhile isSpace with
        | '=' :: rest =>
          match readValue? fuel (rest.dropWhile isSpace) with
          | some (v, ',' :: rest) => readEntries? fuel (Dict.insert key v acc) rest
          | some (v, '\x7d' :: rest) => some (Dict.insert key v acc, rest)
          | _ => none
        | _ => none
end

/-- The value that a text stands for; a text that does not read to its end as a value stands for
itself. -/
def readSetting (s : String) : Setting :=
  let cs := s.toList
  match readValue? (2 * cs.length + 2) cs with
  | some (v, []) => v
  | _ => .text s

/-! ### The source -/

/-- The table that one variable contributes. -/
def ofVariable (name value : String) : Setting :=
  match settingPath? name with
  | some path => .nested path (readSetting value)
  | none => .table []

/-- The settings of all variables, laid over each other in their order. -/
def ofEnvironment (env : Environment) : Setting :=
  env.foldl (fun lower v => lower.overlay (ofVariable v.1 v.2)) (.table [])

end PrintClient.Config
