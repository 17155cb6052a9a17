import PrintClient.Text.Utf8

/-!
# Paths of files

A path is a sequence of bytes in which slashes separate names. The name of the file at its end is
shown as a text, with replacement characters where it is none.

* `Path.pieces`: the stretches between the slashes;
* `Path.fileName?`, `Path.fileStem?`: the last name, whole and without its extension.
-/

namespace PrintClient

/-- A path of a file, as bytes. -/
structure Path where
  bytes : List UInt8
  deriving DecidableEq

namespace Path

/-- The slash. -/
def separator : UInt8 := 0x2f

/-- The dot. -/
def dot : UInt8 := 0x2e

/-- The name for the directory itself. -/
def here : List UInt8 := [dot]

/-- The name for the directory above. -/
def above : List UInt8 := [dot, dot]

/-- The path that a text spells. -/
def ofText (s : String) : Path := ⟨Text.utf8 s⟩

/-- The path as a text. -/
def toText (p : Path) : String := Text.ofUtf8 p.bytes

/-- The stretches between separators, of which some may be empty. -/
def split : List UInt8 → List (List UInt8)
  | [] => [[]]
  | b :: rest =>
    if b = separator then [] :: split rest
    else
      match split rest with
      | [] => [[b]]
      | piece :: pieces => (b :: piece) :: pieces

/-- The stretches between the slashes of a path, of which some may be empty. -/
def pieces (p : Path) : List (List UInt8) := split p.bytes

/-- Whether a path starts at the root. -/
def isAbsolute (p : Path) : Bool := p.bytes.head? = some separator

/-- The pieces that name something: neither empty nor the directory itself. -/
def names (p : Path) : List (List UInt8) := p.pieces.filter fun n => n ≠ [] && n ≠ here

/-- The last name, unless the path ends above a directory or names nothing. -/
def lastName? (p : Path) : Option (List UInt8) :=
  match p.names.getLast? with
  | some n => if n = above then none else some n
  | none => none

/-- The last name as a text. -/
def fileName? (p : Path) : Option String := p.lastName?.map Text.ofUtf8

/-- A name without its extension: all before the last dot, but a dot in front belongs to the name.
-/
def stem (name : List UInt8) : List UInt8 :=
  match name.reverse.dropWhile fun b => b ≠ dot with
  | [] => name
  | _ :: [] => name
  | _ :: before => before.reverse

/-- The last name without its extension, as a text. -/
def fileStem? (p : Path) : Option String := p.lastName?.map fun n => Text.ofUtf8 (stem n)

end Path

end PrintClient
