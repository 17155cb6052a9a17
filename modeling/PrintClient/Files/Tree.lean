import PrintClient.Failure
import PrintClient.Files.Path

/-!
# Files and what reading them brings

An open file has a length, taken when it was opened, and a schedule of reads: each read brings a
block, nothing more at the end of the file, or a fault. A `FileTree` holds files by their absolute
names and resolves paths to them from a working directory.

* `Read`, `OpenFile`, `OpenFile.ofBytes`: a file as its reader meets it;
* `FileTree.write`, `FileTree.opener`: a tree of files.
-/

namespace PrintClient

/-- What one read of a file brings: a block, which is empty at the end of the file, or a fault. -/
abbrev Read := Except FileFault (List UInt8)

/-- The most bytes that one read brings. -/
def blockSize : Nat := 8192

/-- An open file: its length at that moment, and what its reads will bring one after the other. -/
structure OpenFile where
  length : Nat
  reads : List Read

/-- Bytes in blocks of at most `size`, all but the last of them full. -/
def blocksWithin (size : Nat) : Nat → List UInt8 → List (List UInt8)
  | 0, _ => []
  | _, [] => []
  | fuel + 1, bytes => bytes.take size :: blocksWithin size fuel (bytes.drop size)

/-- Bytes in the blocks that reads of full size bring. -/
def blocks (bytes : List UInt8) : List (List UInt8) :=
  blocksWithin blockSize (bytes.length / blockSize + 1) bytes

/-- A file of these bytes whose reads bring as much as they can. -/
def OpenFile.ofBytes (bytes : List UInt8) : OpenFile := ⟨bytes.length, (blocks bytes).map .ok⟩

/-- A directory: it can be opened, but not read. -/
def OpenFile.directory : OpenFile := ⟨4096, [.error .isDirectory]⟩

/-- How paths are opened. -/
abbrev FileOpener := Path → Except FileFault OpenFile

/-- Files by the names on the way to them from the root, and the directory that paths start from. -/
structure FileTree where
  files : List (List (List UInt8) × List UInt8)
  workingDirectory : List (List UInt8)

namespace FileTree

/-- The most bytes that a name can have. -/
def longestName : Nat := 255

/-- The most bytes that a path can have. -/
def longestPath : Nat := 4095

/-- A tree without files. -/
def empty (workingDirectory : List (List UInt8)) : FileTree := ⟨[], workingDirectory⟩

/-- The content of the file at a place. -/
def content? (t : FileTree) (place : List (List UInt8)) : Option (List UInt8) :=
  t.files.lookup place

/-- Whether a place is a directory: the working directory, or on the way to it or to a file. -/
def isDirectory (t : FileTree) (place : List (List UInt8)) : Bool :=
  place.isPrefixOf t.workingDirectory ||
    t.files.any fun f => place.isPrefixOf f.1 && place ≠ f.1

/-- Follows names from a place that was reached. -/
def walk (t : FileTree) (place : List (List UInt8)) :
    List (List UInt8) → Except FileFault (List (List UInt8))
  | [] => .ok place
  | name :: rest =>
    if !t.isDirectory place then .error .notDirectory
    else if name = [] || name = Path.here then walk t place rest
    else if name = Path.above then walk t place.dropLast rest
    else if longestName < name.length then .error .nameTooLong
    else if t.isDirectory (place ++ [name]) || (t.content? (place ++ [name])).isSome then
      walk t (place ++ [name]) rest
    else .error .notFound

/-- The place that a path starts from. -/
def origin (t : FileTree) (p : Path) : List (List UInt8) :=
  if p.isAbsolute then [] else t.workingDirectory

/-- The place that a path leads to. -/
def resolve (t : FileTree) (p : Path) : Except FileFault (List (List UInt8)) :=
  if p.bytes.contains 0 then .error .zeroByte
  else if longestPath < p.bytes.length then .error .nameTooLong
  else t.walk (t.origin p) p.pieces

/-- Opens what a path leads to. -/
def opener (t : FileTree) : FileOpener := fun p =>
  match t.resolve p with
  | .error f => .error f
  | .ok place =>
    match t.content? place with
    | some bytes => .ok (.ofBytes bytes)
    | none => .ok .directory

/-- The tree with a file written at a path of plain names, in place of one that was there. -/
def write (t : FileTree) (p : Path) (bytes : List UInt8) : FileTree :=
  let place := t.origin p ++ p.names
  { t with files := (place, bytes) :: t.files.filter fun f => f.1 ≠ place }

end FileTree

end PrintClient
