import PrintClient.Files.Tree

/-!
# Forms with text fields and a file

A `Form` is what a `multipart/form-data` body carries: text fields in order and at most one file,
under a boundary that separates the parts. The pieces of the body are bytes; `Form.body` puts them
together.

* `Form.text`, `Form.textLatin1`, `Form.attach`: how forms are built;
* `Field.part`, `FilePart.header`, `Form.trailer`: the pieces of a body;
* `Form.body`: the whole body for a file of known bytes, and `Form.frameLength`: how much of it is
  not the file.
-/

namespace PrintClient.Multipart

/-- A text field; its value is written as it is. -/
structure Field where
  name : String
  value : List UInt8
  deriving DecidableEq

/-- A file, the name under which it is sent, and the type of its content if that is told. -/
structure FilePart where
  path : Path
  fileName : String
  contentType : Option String
  deriving DecidableEq

/-- The fields and the file of a body, and the boundary between its parts. -/
structure Form where
  boundary : String
  fields : List Field
  file : Option FilePart
  deriving DecidableEq

/-! ### Building -/

/-- The hexadecimal digits of a byte. -/
def hexByte (b : UInt8) : List Char :=
  [Nat.digitChar (b.toNat / 16), Nat.digitChar (b.toNat % 16)]

/-- The boundary made from random bytes. -/
def boundaryOf (random : List UInt8) : String :=
  "replink-" ++ String.ofList (random.flatMap hexByte)

namespace Form

/-- The form without fields and file. -/
def empty (boundary : String) : Form := ⟨boundary, [], none⟩

/-- The form with one more text field. -/
def text (form : Form) (name value : String) : Form :=
  { form with fields := form.fields ++ [⟨name, Text.utf8 value⟩] }

/-- The form with one more text field, whose value is given by its code points. -/
def textLatin1 (form : Form) (name : String) (value : List UInt8) : Form :=
  form.text name (Text.ofLatin1 value)

/-- The form with a file, in place of one that was there. -/
def attach (form : Form) (file : FilePart) : Form := { form with file := some file }

/-- The type of the content of the body. -/
def contentType (form : Form) : String := "multipart/form-data; boundary=" ++ form.boundary

end Form

/-! ### The pieces of a body -/

/-- The end of a line. -/
def lineEnd : String := "\r\n"

/-- The line in front of a part. -/
def openingLine (boundary : String) : String := "--" ++ boundary ++ lineEnd

/-- The line after the last part. -/
def closingLine (boundary : String) : String := "--" ++ boundary ++ "--" ++ lineEnd

/-- The lines in front of the value of a field. -/
def Field.header (boundary : String) (field : Field) : String :=
  openingLine boundary ++ "Content-Disposition: form-data; name=\x22" ++ field.name ++ "\x22" ++
    lineEnd ++ lineEnd

/-- The part of a field. -/
def Field.part (boundary : String) (field : Field) : List UInt8 :=
  Text.utf8 (field.header boundary) ++ field.value ++ Text.utf8 lineEnd

/-- The line with the type of a file, if it is told. -/
def FilePart.typeLine (file : FilePart) : String :=
  match file.contentType with
  | some type => "Content-Type: " ++ type ++ lineEnd
  | none => ""

/-- The lines in front of the bytes of a file. -/
def FilePart.header (boundary : String) (file : FilePart) : List UInt8 :=
  Text.utf8 (openingLine boundary ++
    "Content-Disposition: form-data; name=\x22filename\x22; filename=\x22" ++ file.fileName ++
    "\x22" ++ lineEnd ++ file.typeLine ++ lineEnd)

namespace Form

/-- The end of a body; after a file it ends the file's last line first. -/
def trailer (form : Form) : List UInt8 :=
  match form.file with
  | some _ => Text.utf8 (lineEnd ++ closingLine form.boundary)
  | none => Text.utf8 (closingLine form.boundary)

/-- The parts of the fields, in order. -/
def fieldParts (form : Form) : List (List UInt8) := form.fields.map (Field.part form.boundary)

/-- The part of the file up to its bytes, if there is a file. -/
def fileHeader (form : Form) : List UInt8 :=
  match form.file with
  | some file => file.header form.boundary
  | none => []

/-- The bytes of the file, if there is a file. -/
def fileBytes (form : Form) (content : List UInt8) : List UInt8 :=
  match form.file with
  | some _ => content
  | none => []

/-- The body, for a file of these bytes. -/
def body (form : Form) (content : List UInt8) : List UInt8 :=
  form.fieldParts.flatten ++ form.fileHeader ++ form.fileBytes content ++ form.trailer

/-- The length of pieces that follow each other. -/
def totalLength (pieces : List (List UInt8)) : Nat :=
  pieces.foldr (fun piece n => piece.length + n) 0

/-- The length of all but the bytes of the file. -/
def frameLength (form : Form) : Nat :=
  totalLength form.fieldParts + form.trailer.length + form.fileHeader.length

end Form

end PrintClient.Multipart
