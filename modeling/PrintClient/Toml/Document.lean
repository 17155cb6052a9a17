import PrintClient.Toml.Scalar
import PrintClient.Toml.Table

/-!
# TOML documents

`Toml.parse?` reads a whole document into a table of settings, or finds that it is none: a fault of
the text, a key set twice, or values nested too deep.
-/

namespace PrintClient.Toml

open Config (Setting)

/-- How deep lists and inline tables may nest, and how many keys a dotted key may have. -/
def nestingLimit : Nat := 79

/-! ### Keys -/

/-- Whether a character may be part of a key without quote marks. -/
def isBareChar (c : Char) : Bool := c.isAlphanum || c = '_' || c = '-'

/-- One key, bare or between quote marks. -/
def readKey? (cs : List Char) : Option (String × List Char) :=
  match cs with
  | '\x22' :: rest => Text.unquote? rest
  | '\x27' :: rest => readLiteral? rest
  | _ =>
    let bare := cs.takeWhile isBareChar
    if bare = [] then none else some (String.ofList bare, cs.dropWhile isBareChar)

/-- Keys with points between them, blanks around each allowed; at most as many as the first number
says. -/
def readPath? : Nat → List Char → Option (List String × List Char)
  | 0, _ => none
  | limit + 1, cs => do
    let (key, rest) ← readKey? (skipBlanks cs)
    match skipBlanks rest with
    | '.' :: rest =>
      let (path, rest) ← readPath? limit rest
      some (key :: path, rest)
    | rest => some ([key], rest)

/-! ### Values -/

/-- The characters after blanks, comments and ends of lines; a comment must end with its line. -/
def skipLayout? : Nat → List Char → Option (List Char)
  | 0, _ => none
  | fuel + 1, cs =>
    match skipBlanks cs with
    | '#' :: rest => (lineEnd? (skipComment ('#' :: rest))).bind (skipLayout? fuel)
    | rest =>
      match lineEnd? rest with
      | some after => skipLayout? fuel after
      | none => some rest

mutual
/-- A value; `fuel` bounds the number of values read, `depth` how deep they nest. -/
def readValue? (fuel depth : Nat) (cs : List Char) : Option (Setting × List Char) :=
  match fuel with
  | 0 => none
  | fuel + 1 =>
    match cs with
    | [] => none
    | '[' :: rest =>
      match depth with
      | 0 => none
      | depth + 1 => (readItems? fuel depth [] rest).map fun (vs, rest) => (.list vs, rest)
    | '\x7b' :: rest =>
      match depth with
      | 0 => none
      | depth + 1 =>
        match skipBlanks rest with
        | '\x7d' :: rest => some (.table [], rest)
        | rest =>
          (readEntries? fuel depth [] rest).map fun (es, rest) => (.table (settings es), rest)
    | 't' :: 'r' :: 'u' :: 'e' :: rest => some (.truth true, rest)
    | 'f' :: 'a' :: 'l' :: 's' :: 'e' :: rest => some (.truth false, rest)
    | c :: rest =>
      if c = '\x22' ∨ c = '\x27' then
        (readString? (c :: rest)).map fun (s, rest) => (.text s, rest)
      else
        match readDate? (c :: rest) with
        | some found => some found
        | none => readNumber? (c :: rest)

/-- The items of a list up to its closing bracket, added to those in `acc`, which are in reverse. -/
def readItems? (fuel depth : Nat) (acc : List Setting) (cs : List Char) :
    Option (List Setting × List Char) :=
  match fuel with
  | 0 => none
  | fuel + 1 =>
    match skipLayout? (cs.length + 1) cs with
    | none => none
    | some (']' :: rest) => some (acc.reverse, rest)
    | some cs =>
      match readValue? fuel depth cs with
      | none => none
      | some (v, rest) =>
        match skipLayout? (rest.length + 1) rest with
        | some (',' :: rest) => readItems? fuel depth (v :: acc) rest
        | some (']' :: rest) => some ((v :: acc).reverse, rest)
        | _ => none

/-- The entries of an inline table up to its closing brace, from one of them on. -/
def readEntries? (fuel depth : Nat) (acc : Dict Node) (cs : List Char) :
    Option (Dict Node × List Char) :=
  match fuel with
  | 0 => none
  | fuel + 1 =>
    match readPath? nestingLimit cs with
    | some (path, '=' :: rest) =>
      match readValue? fuel depth (skipBlanks rest) with
      | none => none
      | some (v, rest) =>
        match assign? path.dropLast (path.getLastD "") v acc, skipBlanks rest with
        | some acc, ',' :: rest => readEntries? fuel depth acc rest
        | some acc, '\x7d' :: rest => some (acc, rest)
        | _, _ => none
    | _ => none
end

/-! ### The whole document -/

/-- A document read so far: its tables, and the path of the header that the next lines belong to. -/
structure Reading where
  root : Dict Node
  here : List String

/-- One line without its end: nothing, a header, or a value under a key. -/
def readLine? (r : Reading) (cs : List Char) : Option (Reading × List Char) :=
  match skipBlanks cs with
  | [] => some (r, [])
  | '[' :: '[' :: rest =>
    match readPath? nestingLimit rest with
    | some (path, ']' :: ']' :: rest) =>
      (within? path.dropLast (openItem? (path.getLastD "")) r.root).map fun root =>
        (⟨root, path⟩, rest)
    | _ => none
  | '[' :: rest =>
    match readPath? nestingLimit rest with
    | some (path, ']' :: rest) =>
      (within? path.dropLast (openTable? (path.getLastD "")) r.root).map fun root =>
        (⟨root, path⟩, rest)
    | _ => none
  | '#' :: rest => some (r, '#' :: rest)
  | '\n' :: rest => some (r, '\n' :: rest)
  | '\r' :: rest => some (r, '\r' :: rest)
  | rest =>
    match readPath? nestingLimit rest with
    | some (path, '=' :: rest) =>
      match readValue? (2 * rest.length + 2) nestingLimit (skipBlanks rest) with
      | some (v, rest) =>
        (within? r.here (assign? path.dropLast (path.getLastD "") v) r.root).map fun root =>
          (⟨root, r.here⟩, rest)
      | none => none
    | _ => none

/-- The lines of a document; each may end in a comment. -/
def readDocument? : Nat → Reading → List Char → Option Reading
  | 0, _, _ => none
  | fuel + 1, r, cs =>
    match readLine? r cs with
    | none => none
    | some (r, rest) =>
      match skipComment (skipBlanks rest) with
      | [] => some r
      | rest =>
        match lineEnd? rest with
        | some rest => readDocument? fuel r rest
        | none => none

/-- The settings of a document; a byte-order mark in front does not count. -/
def parse? (text : String) : Option Setting :=
  let cs := match text.toList with
    | '\ufeff' :: rest => rest
    | cs => cs
  (readDocument? (cs.length + 1) ⟨[], []⟩ cs).map fun r => .table (settings r.root)

end PrintClient.Toml
