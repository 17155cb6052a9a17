import PrintClient.Proofs.Multipart.Pulls
import PrintClient.Proofs.Multipart.Reader

/-!
# A form is recovered from its body

The reader of bodies gets back the fields and the file of a form, whatever its values and its file
contain, as long as two dashes and the boundary do not occur there. So different forms have
different bodies.

* `pieceOf`, `Form.pieces`, `Form.reference_eq_pieces`: a body as pieces between delimiters;
* `IsClear`, `isClear_pieceOf`: no piece contains a delimiter;
* `read_pieceOf`, `Field.read_piece`, `FilePart.read_piece`: what is read from a piece;
* `readParts?_reference`: what is read from the whole body;
* `Form.Separable`, `Recovered`, `parts_recovered`: what holds of the chunks of every such form.
-/

namespace PrintClient.Multipart

open Text (utf8 ofUtf8)

/-! ### Pieces -/

/-- What stands between two delimiters: the rest of a line, header lines, a blank line and bytes. -/
def pieceOf (lines : List String) (content : List UInt8) : List UInt8 :=
  13 :: 10 :: ((lines.flatMap fun line => utf8 line ++ [13, 10]) ++ 13 :: 10 :: content)

/-- The lines in front of the value of a field. -/
def Field.lines (field : Field) : List String :=
  ["Content-Disposition: form-data; name=\x22" ++ field.name ++ "\x22"]

/-- The lines in front of the bytes of a file. -/
def FilePart.lines (file : FilePart) : List String :=
  ("Content-Disposition: form-data; name=\x22filename\x22; filename=\x22" ++ file.fileName ++
    "\x22") :: file.contentType.toList.map ("Content-Type: " ++ ·)

/-- The part that is to be read for a field. -/
def Field.asPart (field : Field) : Part := ⟨field.name, none, none, field.value⟩

namespace Form

/-- The piece of the file, if there is one. -/
def filePieces (form : Form) (content : List UInt8) : List (List UInt8) :=
  match form.file with
  | some file => [pieceOf file.lines content]
  | none => []

/-- The pieces between the delimiters of a body. -/
def pieces (form : Form) (content : List UInt8) : List (List UInt8) :=
  form.fields.map (fun field => pieceOf field.lines field.value) ++ form.filePieces content

/-- The parts that are to be read. -/
def parts (form : Form) (content : List UInt8) : List Part :=
  form.fields.map Field.asPart ++
    match form.file with
    | some file => [⟨"filename", some file.fileName, file.contentType, content⟩]
    | none => []

end Form

theorem utf8_lineEnd : utf8 lineEnd = [13, 10] := by decide

theorem Field.written_eq (boundary : String) (field : Field) :
    field.written boundary =
      utf8 ("--" ++ boundary) ++ pieceOf field.lines field.value ++ [13, 10] := by
  rw [← field.part_eq, Field.part, Field.header, openingLine, pieceOf, Field.lines]
  simp only [List.flatMap_singleton, Text.utf8_append, utf8_lineEnd, List.append_assoc,
    List.cons_append, List.nil_append]

theorem FilePart.written_eq (boundary : String) (file : FilePart) (content : List UInt8) :
    file.written boundary ++ content = utf8 ("--" ++ boundary) ++ pieceOf file.lines content := by
  rw [← file.header_eq, FilePart.header, FilePart.typeLine, openingLine, pieceOf, FilePart.lines]
  have hempty : utf8 "" = [] := rfl
  cases file.contentType with
  | none =>
    simp only [Text.utf8_append, utf8_lineEnd, hempty, Option.toList_none, List.map_nil,
      List.flatMap_singleton, List.append_assoc, List.cons_append, List.nil_append]
  | some type =>
    simp only [Text.utf8_append, utf8_lineEnd, Option.toList_some, List.map_cons, List.map_nil,
      List.flatMap_cons, List.flatMap_nil, List.append_assoc, List.cons_append, List.nil_append]

/-- A delimiter, letter by letter. -/
theorem letters_delimiter (boundary : String) :
    (delimiter boundary).letters = 13 :: 10 :: utf8 ("--" ++ boundary) := rfl

/-- Each part ends its last line, so that the next one begins with a delimiter. -/
theorem flatMap_written (boundary : String) (fields : List Field) (rest : List UInt8) :
    13 :: 10 :: (fields.flatMap (Field.written boundary) ++ rest) =
      (fields.map fun field => pieceOf field.lines field.value).flatMap
        ((delimiter boundary).letters ++ ·) ++ 13 :: 10 :: rest := by
  induction fields with
  | nil => rfl
  | cons field fields ih =>
    rw [List.map_cons, List.flatMap_cons, List.flatMap_cons, List.append_assoc, List.append_assoc,
      ← ih, Field.written_eq, letters_delimiter]
    simp only [List.append_assoc, List.cons_append, List.nil_append]

/-- Delimiters in front of pieces are delimiters behind them, but for the first and the last. -/
theorem flatMap_delimited (mark : Mark UInt8) (pieces : List (List UInt8)) :
    pieces.flatMap (mark.letters ++ ·) ++ mark.letters =
      mark.letters ++ pieces.flatMap (· ++ mark.letters) := by
  induction pieces with
  | nil => simp
  | cons piece pieces ih => simp [ih]

/-- **A body is its pieces with delimiters around them.** -/
theorem Form.reference_eq_pieces (form : Form) (content : List UInt8) :
    lineBreak.letters ++ form.reference content =
      (delimiter form.boundary).letters ++
        ((form.pieces content).flatMap (· ++ (delimiter form.boundary).letters) ++
          (closing ++ [13, 10])) := by
  have hfields := flatMap_written form.boundary form.fields
  have hdashes : utf8 "--" = closing := by decide
  rw [← List.append_assoc, ← flatMap_delimited, pieces, reference, filePieces, ← form.trailer_eq,
    trailer]
  cases form.file with
  | none =>
    simp only [lineBreak, Mark.letters, List.cons_append, List.nil_append, List.append_nil,
      hfields, closingLine, Text.utf8_append, utf8_lineEnd, hdashes, delimiter, List.append_assoc]
  | some file =>
    have hpart := file.written_eq form.boundary content
    simp only [lineBreak, Mark.letters, List.cons_append, List.nil_append, List.append_assoc,
      hfields, hpart, closingLine, Text.utf8_append, utf8_lineEnd, hdashes, delimiter,
      List.flatMap_append, List.flatMap_singleton]

/-! ### No piece contains a delimiter -/

/-- The texts that may stand in a header line: the line is not ended by them. -/
def IsUnbroken (s : String) : Prop := '\r' ∉ s.toList

instance (s : String) : Decidable (IsUnbroken s) := inferInstanceAs (Decidable (_ ∉ _))

theorem IsUnbroken.not_mem {s : String} (h : IsUnbroken s) : 13 ∉ utf8 s :=
  fun hmem => h (Text.mem_toList_of_mem_utf8 (by decide) hmem)

theorem IsUnbroken.append {s t : String} (hs : IsUnbroken s) (ht : IsUnbroken t) :
    IsUnbroken (s ++ t) := by
  rw [IsUnbroken, String.toList_append, List.mem_append, not_or]
  exact ⟨hs, ht⟩

theorem IsUnbroken.not_infix {s : String} (h : IsUnbroken s) : ¬ lineBreak.letters <:+: utf8 s :=
  fun hin => h.not_mem (hin.subset List.mem_cons_self)

/-- A header line: it begins with a letter, and no line ends in it. -/
structure IsHeadLine (line : String) : Prop where
  head : (utf8 line).head? = some 67
  unbroken : ¬ lineBreak.letters <:+: utf8 line

section Clear

variable {boundary : String} {line content : List UInt8} {lines : List String}

/-- Bytes that contain no delimiter. -/
def IsClear (boundary : String) (bytes : List UInt8) : Prop :=
  ¬ (delimiter boundary).letters <:+: bytes

/-- A delimiter contains the boundary. -/
theorem IsClear.of_boundary (h : ¬ utf8 ("--" ++ boundary) <:+: content) :
    IsClear boundary content :=
  fun hin => h (List.IsInfix.trans (List.suffix_append [13, 10] _).isInfix hin)

/-- What does not begin with a dash does not begin with two dashes and the boundary. -/
theorem not_prefix_of_head {b : UInt8} (hb : b ≠ 45) (h : content.head? = some b) :
    ¬ utf8 ("--" ++ boundary) <+: content := by
  intro hprefix
  obtain ⟨tail, rfl⟩ := List.head?_eq_some_iff.1 h
  have hdash : utf8 ("--" ++ boundary) = 45 :: 45 :: utf8 boundary := by
    rw [Text.utf8_append]
    rfl
  rw [hdash] at hprefix
  exact hb (List.cons_prefix_cons.1 hprefix).1.symm

/-- No delimiter begins in a line that is not ended by it. -/
theorem IsClear.append_line (hline : ¬ lineBreak.letters <:+: line)
    (h : IsClear boundary (13 :: content)) : IsClear boundary (line ++ 13 :: content) := by
  induction line with
  | nil => exact h
  | cons b line ih =>
    intro hin
    rcases List.infix_cons_iff.1 hin with hprefix | hin
    · -- a line feed would follow the first letter, in the line or in place of what ends it
      obtain ⟨rfl, hnext⟩ := List.cons_prefix_cons.1 hprefix
      cases line with
      | nil => exact absurd (List.cons_prefix_cons.1 hnext).1 (by decide)
      | cons c line =>
        obtain ⟨rfl, -⟩ := List.cons_prefix_cons.1 hnext
        exact hline (List.prefix_append [13, 10] line).isInfix
    · exact ih (fun h => hline (List.infix_cons h)) hin

/-- At the end of a line a delimiter can begin; then the next line begins with the boundary. -/
theorem IsClear.lineBreak (h : IsClear boundary content)
    (hnext : ¬ utf8 ("--" ++ boundary) <+: content) :
    IsClear boundary (13 :: 10 :: content) := by
  intro hin
  rcases List.infix_cons_iff.1 hin with hprefix | hin
  · exact hnext (List.cons_prefix_cons.1 (List.cons_prefix_cons.1 hprefix).2).2
  · exact h (Text.infix_of_infix_append (show 13 ∉ [10] by decide) hin)

/-- A piece contains no delimiter in front of the end of its blank line. -/
theorem isClear_pieceOf_of_blank (hlines : ∀ line ∈ lines, IsHeadLine line)
    (hblank : IsClear boundary (13 :: 10 :: content)) :
    IsClear boundary (pieceOf lines content) := by
  have hhead : ∀ b : UInt8, b = 67 ∨ b = 13 → b ≠ 45 := by
    rintro b (rfl | rfl) <;> decide
  -- the lines are in front of a line break; what begins in them begins with a letter
  suffices h : IsClear boundary
      ((lines.flatMap fun line => utf8 line ++ [13, 10]) ++ 13 :: 10 :: content) ∧
      ∃ b, (b = 67 ∨ b = 13) ∧
        ((lines.flatMap fun line => utf8 line ++ [13, 10]) ++ 13 :: 10 :: content).head? =
          some b by
    obtain ⟨hclear, b, hb, hfirst⟩ := h
    exact hclear.lineBreak (not_prefix_of_head (hhead b hb) hfirst)
  induction lines with
  | nil => exact ⟨hblank, 13, .inr rfl, rfl⟩
  | cons line lines ih =>
    obtain ⟨hline, hunbroken⟩ := hlines line List.mem_cons_self
    obtain ⟨hclear, b, hb, hfirst⟩ := ih fun l hl => hlines l (List.mem_cons_of_mem _ hl)
    rw [List.flatMap_cons, List.append_assoc, List.append_assoc]
    refine ⟨?_, 67, .inl rfl, ?_⟩
    · exact (hclear.lineBreak (not_prefix_of_head (hhead b hb) hfirst)).append_line hunbroken
    · rw [List.head?_append, hline]
      rfl

/-- **A piece contains no delimiter** if its bytes do not contain the boundary. -/
theorem isClear_pieceOf (hlines : ∀ line ∈ lines, IsHeadLine line)
    (hcontent : ¬ utf8 ("--" ++ boundary) <:+: content) :
    IsClear boundary (pieceOf lines content) :=
  isClear_pieceOf_of_blank hlines
    ((IsClear.of_boundary hcontent).lineBreak fun h => hcontent h.isInfix)

end Clear

/-! ### What is read from a piece -/

/-- The texts that may stand in quotation marks. -/
structure IsQuotable (s : String) : Prop where
  unquoted : '\x22' ∉ s.toList
  unbroken : IsUnbroken s

theorem IsHeadLine.ne_nil {line : String} (h : IsHeadLine line) : utf8 line ≠ [] := by
  intro hnil
  have hhead := h.head
  rw [hnil] at hhead
  cases hhead

/-- The headers of a piece are those of its lines. -/
theorem headersOf?_pieceOf {lines : List String} (hlines : ∀ line ∈ lines, IsHeadLine line)
    (content : List UInt8) :
    headersOf? (pieceOf lines content) =
      ((lines.map utf8).mapM header?).map (·, content) := by
  induction lines with
  | nil => exact headersOf?_nil content
  | cons line lines ih =>
    have hline := hlines line List.mem_cons_self
    have hrest := ih fun l hl => hlines l (List.mem_cons_of_mem _ hl)
    rw [pieceOf, List.flatMap_cons, List.append_assoc, List.append_assoc]
    show headersOf? (13 :: 10 :: (utf8 line ++ 13 :: 10 :: ([] ++ _))) = _
    rw [headersOf?_cons hline.ne_nil hline.unbroken, List.nil_append, ← pieceOf, hrest,
      List.map_cons, List.mapM_cons]
    cases header? (utf8 line) with
    | none => rfl
    | some header => cases (lines.map utf8).mapM header? <;> rfl

/-- No line is ended by the quotation mark behind a text. -/
theorem not_infix_quoted {text : String} (htext : ¬ ['\r', '\n'] <:+: text.toList) :
    ¬ ['\r', '\n'] <:+: (text ++ "\x22").toList := by
  intro hin
  rw [String.toList_append] at hin
  rcases List.infix_concat_iff.1 hin with hend | hin
  · have hlast := hend.getLast (by decide)
    rw [List.getLast_concat] at hlast
    exact absurd hlast (by decide)
  · exact htext hin

theorem not_infix_utf8 {opening text : String} (hopening : IsUnbroken opening)
    (htext : ¬ ['\r', '\n'] <:+: text.toList) :
    ¬ lineBreak.letters <:+: utf8 (opening ++ text) := by
  intro hin
  have hascii : ∀ b ∈ lineBreak.letters, b.toNat < 128 := by simp [lineBreak, Mark.letters]
  have hchars : ['\r', '\n'] <:+: (opening ++ text).toList := Text.infix_of_infix_utf8 hascii hin
  rw [String.toList_append] at hchars
  exact htext (Text.infix_of_infix_append hopening hchars)

/-- A line that ends with a text in quotation marks is ended by that text only. -/
theorem isHeadLine_quoted {opening text : String} (hhead : (utf8 opening).head? = some 67)
    (hopening : IsUnbroken opening) (htext : ¬ ['\r', '\n'] <:+: text.toList) :
    IsHeadLine (opening ++ text ++ "\x22") := by
  rw [String.append_assoc]
  refine ⟨?_, not_infix_utf8 hopening (not_infix_quoted htext)⟩
  rw [Text.utf8_append, List.head?_append, hhead]
  rfl

theorem IsUnbroken.not_infix_toList {s : String} (h : IsUnbroken s) :
    ¬ ['\r', '\n'] <:+: s.toList :=
  fun hin => h (hin.subset List.mem_cons_self)

theorem Field.isHeadLine {field : Field} (h : IsQuotable field.name) :
    ∀ line ∈ field.lines, IsHeadLine line := by
  intro line hline
  rw [Field.lines, List.mem_singleton] at hline
  subst hline
  exact isHeadLine_quoted rfl (by decide) h.unbroken.not_infix_toList

theorem FilePart.isHeadLine {file : FilePart} (hname : ¬ ['\r', '\n'] <:+: file.fileName.toList)
    (htype : ∀ type, file.contentType = some type → IsUnbroken type) :
    ∀ line ∈ file.lines, IsHeadLine line := by
  intro line hline
  rcases List.mem_cons.1 hline with rfl | hline
  · exact isHeadLine_quoted rfl (by decide) hname
  · obtain ⟨type, hmem, rfl⟩ := List.mem_map.1 hline
    refine ⟨?_, IsUnbroken.not_infix ?_⟩
    · rw [Text.utf8_append]
      rfl
    · exact (by decide : IsUnbroken "Content-Type: ").append
        (htype type (Option.mem_toList.1 hmem))

/-- The header that tells which field a part is. -/
theorem header?_disposition (value : String) :
    header? (utf8 ("Content-Disposition: " ++ value)) =
      some ("content-disposition".toList, value.toList) := by
  have hname : "Content-Disposition: " = "Content-Disposition" ++ ": " := by decide
  have hlower : "Content-Disposition".toList.map Char.toLower = "content-disposition".toList := by
    decide
  rw [hname, header?_utf8 (by decide), hlower]

theorem header?_type (value : String) :
    header? (utf8 ("Content-Type: " ++ value)) = some ("content-type".toList, value.toList) := by
  have hname : "Content-Type: " = "Content-Type" ++ ": " := by decide
  have hlower : "Content-Type".toList.map Char.toLower = "content-type".toList := by decide
  rw [hname, header?_utf8 (by decide), hlower]

/-- The parameters of a field. -/
theorem disposition?_name {name : String} (h : '\x22' ∉ name.toList) :
    Part.disposition? ("form-data; name=\x22" ++ name ++ "\x22").toList =
      some [("name".toList, name.toList)] := by
  have hchars : ("form-data; name=\x22" ++ name ++ "\x22").toList =
      "form-data".toList ++
        ';' :: ' ' :: ("name".toList ++ '=' :: '\x22' :: (name.toList ++ '\x22' :: [])) := by
    rw [String.toList_append, String.toList_append, List.append_assoc]
    rfl
  have hlower : "name".toList.map Char.toLower = "name".toList := by decide
  have hlength : "form-data".length = "form-data".toList.length := rfl
  rw [Part.disposition?, hchars, if_pos (List.prefix_append _ _), hlength, List.drop_left,
    parameters?_cons (by decide) h, parameters?_nil, hlower]
  rfl

/-- What is told of every file, up to its name. -/
def dispositionOpening : String := "form-data; name=\x22filename\x22; filename=\x22"

theorem toList_dispositionOpening (text : String) : (dispositionOpening ++ text).toList =
    "form-data".toList ++
      ';' :: ' ' :: ("name".toList ++ '=' :: '\x22' :: ("filename".toList ++ '\x22' ::
        ';' :: ' ' :: ("filename".toList ++ '=' :: '\x22' :: text.toList))) := by
  rw [String.toList_append]
  rfl

/-- What is told of a file. -/
def FilePart.disposition (file : FilePart) : String :=
  dispositionOpening ++ (file.fileName ++ "\x22")

theorem FilePart.lines_eq (file : FilePart) :
    file.lines = ("Content-Disposition: " ++ file.disposition) ::
      file.contentType.toList.map ("Content-Type: " ++ ·) := by
  have hopen : "Content-Disposition: form-data; name=\x22filename\x22; filename=\x22" =
      "Content-Disposition: " ++ dispositionOpening := by decide
  rw [FilePart.lines, FilePart.disposition, hopen, String.append_assoc, String.append_assoc]

/-- The parameters of a file. -/
theorem disposition?_fileName {file : FilePart} (h : '\x22' ∉ file.fileName.toList) :
    Part.disposition? file.disposition.toList =
      some [("name".toList, "filename".toList), ("filename".toList, file.fileName.toList)] := by
  have hquote : "\x22".toList = '\x22' :: [] := rfl
  have hlower : "name".toList.map Char.toLower = "name".toList := by decide
  have hlower' : "filename".toList.map Char.toLower = "filename".toList := by decide
  have hlength : "form-data".length = "form-data".toList.length := rfl
  rw [FilePart.disposition, toList_dispositionOpening, String.toList_append, hquote,
    Part.disposition?, if_pos (List.prefix_append _ _), hlength, List.drop_left,
    parameters?_cons (by decide) (by decide), parameters?_cons (by decide) h, parameters?_nil,
    hlower, hlower']
  rfl

theorem ofHeaders?_eq {headers parameters : List (List Char × List Char)}
    {disposition name : List Char}
    (hdisposition : headers.lookup "content-disposition".toList = some disposition)
    (hparameters : Part.disposition? disposition = some parameters)
    (hname : parameters.lookup "name".toList = some name) (content : List UInt8) :
    Part.ofHeaders? headers content = some
      { name := String.ofList name
        fileName := (parameters.lookup "filename".toList).map String.ofList
        contentType := (headers.lookup "content-type".toList).map String.ofList
        content } := by
  rw [Part.ofHeaders?, hdisposition]
  simp only [bind, Option.bind_some, hparameters, hname]
  rfl

/-- What may be told behind something else is found if it is told. -/
theorem lookup_optional {key other : List Char} (hne : (key == other) = false) (first : List Char)
    (value : Option String) :
    (List.lookup key ((other, first) :: value.toList.map fun v => (key, v.toList))).map
      String.ofList = value := by
  rw [List.lookup_cons, hne]
  cases value with
  | none => rfl
  | some v =>
    simp only [Option.toList_some, List.map_singleton, List.lookup_cons_self, Option.map_some,
      String.ofList_toList]

/-- The headers of a part whose type may be told. -/
theorem mapM_header?_lines (disposition : String) (contentType : Option String) :
    ((("Content-Disposition: " ++ disposition) ::
        contentType.toList.map ("Content-Type: " ++ ·)).map utf8).mapM header? =
      some (("content-disposition".toList, disposition.toList) ::
        contentType.toList.map fun type => ("content-type".toList, type.toList)) := by
  rw [List.map_cons, List.mapM_cons, header?_disposition]
  cases contentType with
  | none => rfl
  | some type =>
    rw [Option.toList_some, List.map_singleton, List.map_singleton, List.mapM_cons, header?_type]
    rfl

/-- **A part is read from its piece**: the first line is its disposition, and the type of its
content may follow. -/
theorem read_pieceOf {lines : List String} {disposition name : String}
    {fileName contentType : Option String} (hlines : ∀ line ∈ lines, IsHeadLine line)
    (heq : lines = ("Content-Disposition: " ++ disposition) ::
      contentType.toList.map ("Content-Type: " ++ ·))
    (hdisposition : Part.disposition? disposition.toList = some (("name".toList, name.toList) ::
      fileName.toList.map fun f => ("filename".toList, f.toList))) (content : List UInt8) :
    Part.ofSection? (pieceOf lines content) = some ⟨name, fileName, contentType, content⟩ := by
  rw [Part.ofSection?_eq, headersOf?_pieceOf hlines, heq, mapM_header?_lines]
  show Part.ofHeaders? _ content = _
  rw [ofHeaders?_eq List.lookup_cons_self hdisposition List.lookup_cons_self,
    lookup_optional (by decide), lookup_optional (by decide), String.ofList_toList]

theorem Field.read_piece {field : Field} (h : IsQuotable field.name) :
    Part.ofSection? (pieceOf field.lines field.value) = some field.asPart := by
  have hopen : "Content-Disposition: form-data; name=\x22" =
      "Content-Disposition: " ++ "form-data; name=\x22" := by decide
  have hlines : field.lines =
      ["Content-Disposition: " ++ ("form-data; name=\x22" ++ field.name ++ "\x22")] := by
    rw [Field.lines, hopen, String.append_assoc, String.append_assoc, String.append_assoc]
  have hparameters : Part.disposition? ("form-data; name=\x22" ++ field.name ++ "\x22").toList =
      some (("name".toList, field.name.toList) ::
        (none : Option String).toList.map fun f => ("filename".toList, f.toList)) :=
    disposition?_name h.unquoted
  exact read_pieceOf (Field.isHeadLine h) hlines hparameters field.value

theorem FilePart.read_piece {file : FilePart} (hname : IsQuotable file.fileName)
    (htype : ∀ type, file.contentType = some type → IsUnbroken type) (content : List UInt8) :
    Part.ofSection? (pieceOf file.lines content) =
      some ⟨"filename", some file.fileName, file.contentType, content⟩ :=
  read_pieceOf (FilePart.isHeadLine hname.unbroken.not_infix_toList htype) file.lines_eq
    (disposition?_fileName hname.unquoted) content

/-! ### The whole body -/

/-- What a form whose file has these bytes does not contain: in its headers no quotation mark and no
end of a line, in its values and its file no boundary behind two dashes. -/
structure Form.Separable (form : Form) (content : List UInt8) : Prop where
  boundary : IsUnbroken form.boundary
  names : ∀ field ∈ form.fields, IsQuotable field.name
  values : ∀ field ∈ form.fields, ¬ utf8 ("--" ++ form.boundary) <:+: field.value
  fileName : ∀ file, form.file = some file → IsQuotable file.fileName
  contentType : ∀ file, form.file = some file →
    ∀ type, file.contentType = some type → IsUnbroken type
  content : form.file.isSome → ¬ utf8 ("--" ++ form.boundary) <:+: content

section Body

variable {form : Form} {content : List UInt8}

theorem Form.Separable.piece (h : form.Separable content) :
    ∀ piece ∈ form.pieces content, piece.head? = some 13 ∧ IsClear form.boundary piece := by
  intro piece hpiece
  rcases List.mem_append.1 hpiece with hpiece | hpiece
  · obtain ⟨field, hfield, rfl⟩ := List.mem_map.1 hpiece
    exact ⟨rfl, isClear_pieceOf (Field.isHeadLine (h.names field hfield)) (h.values field hfield)⟩
  · unfold Form.filePieces at hpiece
    split at hpiece
    · rename_i file hfile
      rw [List.mem_singleton] at hpiece
      subst hpiece
      exact ⟨rfl, isClear_pieceOf
        (FilePart.isHeadLine (h.fileName file hfile).unbroken.not_infix_toList
          (h.contentType file hfile))
        (h.content (by rw [hfile]; rfl))⟩
    · cases hpiece

/-- What is read from each of some pieces is read from all of them. -/
theorem mapM_map_of_forall {α β γ : Type} {f : β → Option γ} {piece : α → β} {part : α → γ}
    {xs : List α} (h : ∀ x ∈ xs, f (piece x) = some (part x)) :
    (xs.map piece).mapM f = some (xs.map part) := by
  induction xs with
  | nil => rfl
  | cons x xs ih =>
    rw [List.map_cons, List.mapM_cons, h x List.mem_cons_self,
      ih fun y hy => h y (List.mem_cons_of_mem _ hy)]
    rfl

theorem Form.Separable.mapM_pieces (h : form.Separable content) :
    (form.pieces content).mapM Part.ofSection? = some (form.parts content) := by
  have hfields := mapM_map_of_forall fun field hfield => Field.read_piece (h.names field hfield)
  rw [Form.pieces, Form.parts, Form.filePieces, List.mapM_append, hfields]
  cases hfile : form.file with
  | none => rfl
  | some file =>
    have hpart := FilePart.read_piece (h.fileName file hfile) (h.contentType file hfile) content
    simp only [List.mapM_cons, List.mapM_nil, hpart]
    rfl

/-- **A body is read as the parts of its form.** -/
theorem readParts?_reference (h : form.Separable content) :
    readParts? form.boundary (form.reference content) = some (form.parts content) := by
  have hfirst : (delimiter form.boundary).first ∉ (delimiter form.boundary).more := by
    intro hmem
    rcases List.mem_cons.1 hmem with heq | hmem
    · exact absurd (show (13 : UInt8) = 10 from heq) (by decide)
    · exact ((by decide : IsUnbroken "--").append h.boundary).not_mem hmem
  -- the body begins with the first delimiter, but for the end of the line in front of it
  have hempty : ¬ (delimiter form.boundary).letters <:+: [] := fun hin => by
    cases List.infix_nil.1 hin
  have hcut := cut?_append _ hfirst hempty ((form.pieces content).flatMap
    (· ++ (delimiter form.boundary).letters) ++ (closing ++ [13, 10]))
  rw [List.nil_append] at hcut
  rw [readParts?, form.reference_eq_pieces, hcut]
  simp only [bind, Option.bind_some, sections?_flatMap hfirst h.piece, h.mapM_pieces]

/-- The field that a part is, if it has no file name. -/
def Part.field? (part : Part) : Option Field :=
  match part.fileName with
  | none => some ⟨part.name, part.content⟩
  | some _ => none

/-- The file that a part is: its name, its type and its bytes. -/
def Part.file? (part : Part) : Option (String × Option String × List UInt8) :=
  part.fileName.map fun name => (name, part.contentType, part.content)

/-- The file of a form, without the path that it is read from. -/
def Form.sent? (form : Form) (content : List UInt8) :
    Option (String × Option String × List UInt8) :=
  form.file.map fun file => (file.fileName, file.contentType, content)

theorem filterMap_field? (form : Form) (content : List UInt8) :
    (form.parts content).filterMap Part.field? = form.fields := by
  have hfields : (form.fields.map Field.asPart).filterMap Part.field? = form.fields := by
    rw [List.filterMap_map]
    exact List.filterMap_some
  rw [Form.parts, List.filterMap_append, hfields]
  cases form.file with
  | none => exact List.append_nil _
  | some file => exact List.append_nil _

theorem filterMap_file? (form : Form) (content : List UInt8) :
    (form.parts content).filterMap Part.file? = (form.sent? content).toList := by
  have hfields : (form.fields.map Field.asPart).filterMap Part.file? = [] := by
    rw [List.filterMap_map]
    exact List.filterMap_eq_nil_iff.2 fun _ _ => rfl
  rw [Form.parts, List.filterMap_append, hfields, Form.sent?]
  cases form.file with
  | none => rfl
  | some file => rfl

/-- **The contents of a form are told by its parts.** -/
theorem contents_of_parts_eq {other : Form} {content' : List UInt8}
    (h : other.parts content' = form.parts content) :
    other.fields = form.fields ∧ other.sent? content' = form.sent? content := by
  refine ⟨?_, ?_⟩
  · rw [← filterMap_field? other content', h, filterMap_field?]
  · have hfiles := congrArg (List.filterMap Part.file?) h
    rw [filterMap_file?, filterMap_file?] at hfiles
    simpa only [Option.head?_toList] using congrArg List.head? hfiles

end Body

/-! ### Texts -/

/-- A text field as it is given to a form: by a text, or by the code points of one. -/
inductive Entry where
  | text (name value : String)
  | latin1 (name : String) (value : List UInt8)

/-- The form with one more text field. -/
def Form.enter (form : Form) : Entry → Form
  | .text name value => form.text name value
  | .latin1 name value => form.textLatin1 name value

/-- The name of a field, and the code points of its value. -/
def Entry.told : Entry → String × Option (List Nat)
  | .text name value => (name, some (value.toList.map Char.toNat))
  | .latin1 name value => (name, some (value.map UInt8.toNat))

/-- The name of a part, and the code points of its bytes if they are a text. -/
def Part.told (part : Part) : String × Option (List Nat) :=
  (part.name, if Text.isUtf8 part.content then
    some ((ofUtf8 part.content).toList.map Char.toNat) else none)

theorem told_text (name value : String) :
    (Field.asPart ⟨name, utf8 value⟩).told = (name, some (value.toList.map Char.toNat)) := by
  rw [Part.told, Field.asPart, if_pos (Text.isUtf8_utf8 value), Text.ofUtf8_utf8]

/-- The texts that are entered are read. -/
theorem told_entries (form : Form) (entries : List Entry) :
    ((entries.foldl Form.enter form).fields.map Field.asPart).map Part.told =
      (form.fields.map Field.asPart).map Part.told ++ entries.map Entry.told := by
  induction entries generalizing form with
  | nil => rw [List.foldl_nil, List.map_nil, List.append_nil]
  | cons entry entries ih =>
    have hentry : ((form.enter entry).fields.map Field.asPart).map Part.told =
        (form.fields.map Field.asPart).map Part.told ++ [entry.told] := by
      cases entry with
      | text name value =>
        simp only [Form.enter, Form.text, List.map_append, List.map_singleton, told_text]
        rfl
      | latin1 name value =>
        simp only [Form.enter, Form.textLatin1, Form.text, List.map_append, List.map_singleton,
          told_text, Text.toList_ofLatin1]
        rfl
    rw [List.foldl_cons, ih, hentry, List.map_cons, List.append_assoc]
    rfl

/-! ### Every form -/

/-- A form whose file has these bytes goes out as this body, in whatever blocks the file is read. -/
def Form.GoesOutAs (form : Form) (content body : List UInt8) : Prop :=
  ∃ (files : FileOpener) (length : Nat) (blocks : List (List UInt8)) (e : Encoder)
      (chunks : List Chunk),
    (∀ file, form.file = some file → files file.path = .ok ⟨length, blocks.map .ok⟩) ∧
    (∀ block ∈ blocks, block ≠ [] ∧ block.length ≤ blockSize) ∧ blocks.flatten = content ∧
    Encoder.ofForm files form = .ok e ∧ e.chunks = chunks.map .ok ∧
    chunks.flatMap Chunk.bytes = body

/-- What a reader gets from the body of a form. -/
structure Recovered (form : Form) (content body : List UInt8) : Prop where
  /-- The fields in order, then the file. -/
  parts : readParts? form.boundary body = some (form.parts content)
  /-- The parts of the fields are the texts that were entered. -/
  texts : ∀ (entries : List Entry) (file : Option FilePart),
    form = { entries.foldl Form.enter (.empty form.boundary) with file } →
      ((form.parts content).take entries.length).map Part.told = entries.map Entry.told
  /-- No form with other contents goes out as the same body. -/
  unique : ∀ (other : Form) (content' : List UInt8), other.boundary = form.boundary →
    other.Separable content' → other.GoesOutAs content' body →
      other.fields = form.fields ∧ other.sent? content' = form.sent? content

/-- The chunks of an encoder whose file is read in these blocks. -/
theorem chunks_of_ofForm {files : FileOpener} {form : Form} {length : Nat}
    {blocks : List (List UInt8)}
    (hopen : ∀ file, form.file = some file → files file.path = .ok ⟨length, blocks.map .ok⟩)
    (hblocks : ∀ block ∈ blocks, block ≠ [] ∧ block.length ≤ blockSize) :
    ∃ e, Encoder.ofForm files form = .ok e ∧ e.chunks = (form.chunks blocks).map .ok := by
  obtain ⟨opened, hopened, hreads⟩ := Encoder.ofForm_eq hopen
  exact ⟨_, hopened, (Encoder.bringsBody_start hreads hblocks).chunks⟩

theorem Form.GoesOutAs.eq_reference {form : Form} {content body : List UInt8}
    (h : form.GoesOutAs content body) : body = form.reference content := by
  obtain ⟨files, length, blocks, e, chunks, hopen, hblocks, hcontent, hopened, hchunks, hbody⟩ := h
  obtain ⟨e', hopened', hchunks'⟩ := chunks_of_ofForm hopen hblocks
  rw [hopened] at hopened'
  cases hopened'
  have hsame : chunks = form.chunks blocks := by
    rw [hchunks] at hchunks'
    exact (List.map_inj_right fun _ _ => Except.ok.inj).1 hchunks'
  rw [← hbody, hsame, form.flatMap_chunks, hcontent]

/-- **A reader recovers every form from its chunks.** -/
theorem parts_recovered (files : FileOpener) (form : Form) (length : Nat)
    (blocks : List (List UInt8))
    (hopen : ∀ file, form.file = some file → files file.path = .ok ⟨length, blocks.map .ok⟩)
    (hblocks : ∀ block ∈ blocks, block ≠ [] ∧ block.length ≤ blockSize)
    (hform : form.Separable blocks.flatten) :
    ∃ (e : Encoder) (chunks : List Chunk), Encoder.ofForm files form = .ok e ∧
      e.chunks = chunks.map .ok ∧ Recovered form blocks.flatten (chunks.flatMap Chunk.bytes) := by
  obtain ⟨e, hopened, hchunks⟩ := chunks_of_ofForm hopen hblocks
  refine ⟨e, form.chunks blocks, hopened, hchunks, ?_, ?_, ?_⟩
  · rw [form.flatMap_chunks, readParts?_reference hform]
  · intro entries file hentries
    have htold := told_entries (.empty form.boundary) entries
    have hfields : (entries.foldl Form.enter (.empty form.boundary)).fields = form.fields :=
      (congrArg Form.fields hentries).symm
    rw [hfields] at htold
    have hlength : entries.length = (form.fields.map Field.asPart).length := by
      simpa [Form.empty] using (congrArg List.length htold).symm
    rw [Form.parts, hlength, List.take_left, htold]
    rfl
  · -- the same body is read as the same parts
    intro other content' hboundary hother hbody
    rw [form.flatMap_chunks] at hbody
    have hsame := readParts?_reference hother
    rw [← hbody.eq_reference, hboundary, readParts?_reference hform] at hsame
    exact contents_of_parts_eq (Option.some.inj hsame).symm

/-- The file of the form may end like a line in front of a delimiter. -/
theorem sampleForm_separable : sampleForm.Separable [71, 13, 10, 45, 45] where
  boundary := by decide
  names := by
    intro field hfield
    simp only [sampleForm, Form.attach, Form.textLatin1, Form.text, Form.empty, List.nil_append,
      List.singleton_append, List.mem_cons, List.not_mem_nil, or_false] at hfield
    rcases hfield with rfl | rfl <;> exact ⟨by decide, by decide⟩
  values := by decide +kernel
  fileName := by
    intro file hfile
    cases hfile
    exact ⟨by decide, by decide⟩
  contentType := by
    intro file hfile type htype
    cases hfile
    cases htype
    decide
  content := by decide +kernel

theorem parts_recovered_of_sampleForm :
    (∀ file, sampleForm.file = some file →
      (fun _ => .ok ⟨5, [.ok [71, 13], .ok [10, 45, 45]]⟩ : FileOpener) file.path =
        .ok ⟨5, [[71, 13], [10, 45, 45]].map .ok⟩) ∧
    (∀ block ∈ ([[71, 13], [10, 45, 45]] : List (List UInt8)),
      block ≠ [] ∧ block.length ≤ blockSize) ∧
    sampleForm.Separable [71, 13, 10, 45, 45] ∧
    ∃ (e : Encoder) (chunks : List Chunk),
      Encoder.ofForm (fun _ => .ok ⟨5, [.ok [71, 13], .ok [10, 45, 45]]⟩) sampleForm = .ok e ∧
      e.chunks = chunks.map .ok ∧
      Recovered sampleForm [71, 13, 10, 45, 45] (chunks.flatMap Chunk.bytes) :=
  ⟨fun _ _ => rfl, by decide +kernel, sampleForm_separable,
    parts_recovered _ sampleForm 5 [[71, 13], [10, 45, 45]] (fun _ _ => rfl) (by decide +kernel)
      sampleForm_separable⟩

end PrintClient.Multipart
