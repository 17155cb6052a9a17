import PrintClient.Proofs.Multipart.Recovery
import PrintClient.Upload

/-!
# The file name of an upload

The header of a model's file is two lines, the first of which has the name of the file in quotation
marks. The name is written as it is. So a reader of quoted strings, in which a backslash stands in
front of a letter that is meant as such, gets it back exactly if it is plain: without quotation
marks, backslashes and ends of lines.

* `unquote?`, `quotedParameters?`: a reader of quoted strings, and of parameters in them;
* `IsPlain`, `unquote?_iff`: the names that may be written as they are;
* `KeepsName`, `keepsName_iff`: what is read from the header of a file;
* `Model.form_eq`, `file_name_kept_iff`: what holds of the header that every upload writes.
-/

namespace PrintClient.Multipart

open Text (utf8)

/-! ### Quoted strings -/

/-- The text up to the quotation mark that ends it, and what stands behind; a backslash takes the
next letter as it is. -/
def unquote? : List Char → Option (List Char × List Char)
  | [] => none
  | '\x22' :: cs => some ([], cs)
  | '\\' :: c :: cs => (unquote? cs).map fun (value, rest) => (c :: value, rest)
  | '\\' :: [] => none
  | c :: cs => (unquote? cs).map fun (value, rest) => (c :: value, rest)

section Unquote

variable {cs value rest : List Char}

theorem unquote?_cons {c : Char} (hquote : c ≠ '\x22') (hescape : c ≠ '\\') (cs : List Char) :
    unquote? (c :: cs) = (unquote? cs).map fun (value, rest) => (c :: value, rest) := by
  rw [unquote?]
  · exact hquote
  · rintro - - rfl
    exact absurd rfl hescape
  · rintro rfl
    exact absurd rfl hescape

/-- The quotation mark at the end is not part of the text. -/
theorem length_of_unquote? (h : unquote? cs = some (value, rest)) :
    value.length + rest.length < cs.length := by
  fun_induction unquote? cs generalizing value with
  | case1 => cases h
  | case2 cs =>
    cases h
    simp
  | case3 c cs ih =>
    obtain ⟨⟨value', rest'⟩, hrest, heq⟩ := Option.map_eq_some_iff.1 h
    cases heq
    have := ih hrest
    simp only [List.length_cons]
    omega
  | case4 => cases h
  | case5 c cs _ _ _ ih =>
    obtain ⟨⟨value', rest'⟩, hrest, heq⟩ := Option.map_eq_some_iff.1 h
    cases heq
    have := ih hrest
    simp only [List.length_cons]
    omega

/-- A text without quotation marks and backslashes is read up to the next quotation mark. -/
theorem unquote?_append (hquote : '\x22' ∉ value) (hescape : '\\' ∉ value) (cs : List Char) :
    unquote? (value ++ '\x22' :: cs) = some (value, cs) := by
  induction value with
  | nil => rw [List.nil_append, unquote?]
  | cons c value ih =>
    rw [List.mem_cons, not_or] at hquote hescape
    rw [List.cons_append, unquote?_cons (Ne.symm hquote.1) (Ne.symm hescape.1),
      ih hquote.2 hescape.2]
    rfl

/-- A quotation mark ends a text early, and a backslash makes it shorter. -/
theorem plain_of_unquote? (h : unquote? (value ++ ['\x22']) = some (value, rest)) :
    rest = [] ∧ '\x22' ∉ value ∧ '\\' ∉ value := by
  induction value with
  | nil =>
    rw [List.nil_append, unquote?] at h
    cases h
    exact ⟨rfl, List.not_mem_nil, List.not_mem_nil⟩
  | cons c value ih =>
    by_cases hquote : c = '\x22'
    · subst hquote
      rw [List.cons_append, unquote?] at h
      cases h
    · by_cases hescape : c = '\\'
      · subst hescape
        cases value with
        | nil => cases h
        | cons d value =>
          -- what is left is shorter by two letters, and what is read by one
          rw [List.cons_append, List.cons_append, unquote?] at h
          obtain ⟨⟨value', rest'⟩, hrest, heq⟩ := Option.map_eq_some_iff.1 h
          cases heq
          have hlength := length_of_unquote? hrest
          simp only [List.length_cons, List.length_append, List.length_nil] at hlength
          omega
      · rw [List.cons_append, unquote?_cons hquote hescape] at h
        obtain ⟨⟨value', rest'⟩, hrest, heq⟩ := Option.map_eq_some_iff.1 h
        cases heq
        obtain ⟨hnil, hquotes, hescapes⟩ := ih hrest
        exact ⟨hnil, List.not_mem_cons_of_ne_of_not_mem (Ne.symm hquote) hquotes,
          List.not_mem_cons_of_ne_of_not_mem (Ne.symm hescape) hescapes⟩

/-- **A text is read back from quotation marks** exactly if no letter of it means anything there. -/
theorem unquote?_iff :
    unquote? (value ++ ['\x22']) = some (value, []) ↔ '\x22' ∉ value ∧ '\\' ∉ value :=
  ⟨fun h => (plain_of_unquote? h).2, fun h => unquote?_append h.1 h.2 []⟩

end Unquote

/-! ### Parameters -/

/-- Parameters with their values, which are quoted strings. -/
def quotedParameters? (cs : List Char) : Option (List (List Char × List Char)) :=
  match cs with
  | [] => some []
  | ';' :: cs =>
    match h : cut? ⟨'=', ['\x22']⟩ cs with
    | none => none
    | some (key, rest) =>
      match h' : unquote? rest with
      | none => none
      | some (value, rest') =>
        have := length_of_cut? h
        have := length_of_unquote? h'
        (quotedParameters? rest').map (((skipBlank key).map Char.toLower, value) :: ·)
  | _ => none
termination_by cs.length

theorem quotedParameters?_nil : quotedParameters? [] = some [] := by
  rw [quotedParameters?]

theorem quotedParameters?_cons {key : List Char} (hkey : '=' ∉ key) (cs : List Char) :
    quotedParameters? (';' :: ' ' :: (key ++ '=' :: '\x22' :: cs)) =
      (unquote? cs).bind fun (value, rest) =>
        (quotedParameters? rest).map ((key.map Char.toLower, value) :: ·) := by
  have hcut := cut?_key hkey cs
  rw [quotedParameters?]
  split
  · rename_i h
    rw [hcut] at h
    cases h
  · rename_i h
    rw [hcut] at h
    cases h
    split
    · rename_i h
      rw [h]
      rfl
    · rename_i h
      show (quotedParameters? _).map _ = _
      rw [h]
      rfl

/-- The parameters of a disposition, if it is that of a part of a form. -/
def quotedDisposition? (value : List Char) : Option (List (List Char × List Char)) :=
  if "form-data".toList <+: value then quotedParameters? (value.drop "form-data".length) else none

/-- What is read of a file depends on what stands behind the quotation mark in front of its name. -/
theorem quotedDisposition?_eq (text : String) :
    quotedDisposition? (dispositionOpening ++ text).toList =
      (unquote? text.toList).bind fun (value, rest) =>
        (quotedParameters? rest).map fun parameters =>
          ("name".toList, "filename".toList) :: ("filename".toList, value) :: parameters := by
  have hlower : "name".toList.map Char.toLower = "name".toList := by decide
  have hlower' : "filename".toList.map Char.toLower = "filename".toList := by decide
  have hlength : "form-data".length = "form-data".toList.length := rfl
  rw [toList_dispositionOpening, quotedDisposition?, if_pos (List.prefix_append _ _), hlength,
    List.drop_left, quotedParameters?_cons (by decide), unquote?_append (by decide) (by decide)]
  show (quotedParameters? _).map _ = _
  rw [quotedParameters?_cons (by decide), hlower, hlower']
  cases unquote? text.toList with
  | none => rfl
  | some read =>
    show ((quotedParameters? read.2).map _).map _ = (quotedParameters? read.2).map _
    rw [Option.map_map]
    rfl

/-- The parameters of a file with this name. -/
def fileParameters (name : String) : List (List Char × List Char) :=
  [("name".toList, "filename".toList), ("filename".toList, name.toList)]

theorem exists_unquote?_of_disposition {text name : String}
    (h : quotedDisposition? (dispositionOpening ++ text).toList =
      some (fileParameters name)) : ∃ rest, unquote? text.toList = some (name.toList, rest) := by
  rw [quotedDisposition?_eq] at h
  obtain ⟨⟨value, rest⟩, hread, hparameters⟩ := Option.bind_eq_some_iff.1 h
  obtain ⟨parameters, -, heq⟩ := Option.map_eq_some_iff.1 hparameters
  cases heq
  exact ⟨rest, hread⟩

/-! ### The header of a file -/

/-- The names that may be written as they are. A carriage return and a line feed end a line together
only; each of them alone is a letter like any other. -/
structure IsPlain (name : String) : Prop where
  unquoted : '\x22' ∉ name.toList
  unescaped : '\\' ∉ name.toList
  unbroken : ¬ ['\r', '\n'] <:+: name.toList

/-- A piece is that of a file with this name, this type and these bytes: two header lines tell the
name and the type, and no delimiter begins in front of the end of the blank line behind them. -/
structure TellsFile (boundary name type : String) (content piece : List UInt8) : Prop where
  headers : ∃ disposition, headersOf? piece =
      some ([("content-disposition".toList, disposition), ("content-type".toList, type.toList)],
        content) ∧
    quotedDisposition? disposition = some (fileParameters name)
  delimiters : (delimiter boundary).letters <:+: piece →
    (delimiter boundary).letters <:+: 13 :: 10 :: content

/-- Behind this header any bytes are read as those of a file with this name and this type. -/
def KeepsName (boundary name type : String) (header : List UInt8) : Prop :=
  ∀ content, ∃ piece, header ++ content = utf8 ("--" ++ boundary) ++ piece ∧
    TellsFile boundary name type content piece

section Header

variable {boundary type : String} {file : FilePart}

/-- The name is read from the first line. -/
theorem exists_unquote?_of_headersOf? {text name : String} {bytes content : List UInt8}
    {disposition : List Char} {headers : List (List Char × List Char)}
    (hclear : ¬ ['\r', '\n'] <:+: text.toList)
    (hheaders : headersOf? (13 :: 10 ::
      (utf8 ("Content-Disposition: " ++ (dispositionOpening ++ text)) ++ 13 :: 10 :: bytes)) =
        some (("content-disposition".toList, disposition) :: headers, content))
    (hparameters : quotedDisposition? disposition = some (fileParameters name)) :
    ∃ rest, unquote? text.toList = some (name.toList, rest) := by
  have hne : utf8 ("Content-Disposition: " ++ (dispositionOpening ++ text)) ≠ [] := by
    rw [Text.utf8_append]
    exact List.append_ne_nil_of_left_ne_nil (by decide) _
  have hopening : IsUnbroken ("Content-Disposition: " ++ dispositionOpening) := by decide
  have hline := not_infix_utf8 hopening hclear
  rw [String.append_assoc] at hline
  rw [headersOf?_cons hne hline, header?_disposition, Option.bind_some] at hheaders
  obtain ⟨rest, -, heq⟩ := Option.map_eq_some_iff.1 hheaders
  cases heq
  exact exists_unquote?_of_disposition hparameters

theorem tellsFile_of_isPlain (hplain : IsPlain file.fileName) (htype : file.contentType = some type)
    (hunbroken : IsUnbroken type) (content : List UInt8) :
    TellsFile boundary file.fileName type content (pieceOf file.lines content) := by
  have hlines := FilePart.isHeadLine hplain.unbroken fun type' h => by
    rw [htype] at h
    cases h
    exact hunbroken
  refine ⟨⟨file.disposition.toList, ?_, ?_⟩, ?_⟩
  · rw [headersOf?_pieceOf hlines, file.lines_eq, mapM_header?_lines, htype]
    rfl
  · have hquote : "\x22".toList = ['\x22'] := rfl
    rw [FilePart.disposition, quotedDisposition?_eq, String.toList_append, hquote,
      unquote?_iff.2 ⟨hplain.unquoted, hplain.unescaped⟩]
    show (quotedParameters? []).map _ = _
    rw [quotedParameters?_nil]
    rfl
  · intro hin
    exact Classical.byContradiction fun hnone => isClear_pieceOf_of_blank hlines hnone hin

/-- The end of a line in the name of a file ends the first line there. -/
theorem exists_first_line (hbroken : ['\r', '\n'] <:+: file.fileName.toList) :
    ∃ (text : String) (bytes : List UInt8), ¬ ['\r', '\n'] <:+: text.toList ∧
      text.toList.length < file.fileName.toList.length ∧
      utf8 ("Content-Disposition: " ++ file.disposition) =
        utf8 ("Content-Disposition: " ++ (dispositionOpening ++ text)) ++ 13 :: 10 :: bytes := by
  obtain ⟨before, after, hname, hbefore⟩ := exists_first_of_infix ⟨'\r', ['\n']⟩ hbroken
  have hsplit : file.fileName = String.ofList before ++ "\r\n" ++ String.ofList after := by
    rw [← String.ofList_toList (s := file.fileName), hname, String.ofList_append,
      String.ofList_append]
    rfl
  have hend : utf8 "\r\n" = [13, 10] := utf8_lineEnd
  refine ⟨String.ofList before, utf8 (String.ofList after ++ "\x22"), ?_, ?_, ?_⟩
  · rw [String.toList_ofList]
    exact hbefore
  · simp [hname, Mark.letters]
  · rw [FilePart.disposition, hsplit]
    simp only [Text.utf8_append, hend, List.append_assoc, List.cons_append, List.nil_append]

/-- A name that is not plain is not read: its first quotation mark or end of a line ends it early,
and a backslash is left out of it. -/
theorem isPlain_of_tellsFile {content : List UInt8}
    (h : TellsFile boundary file.fileName type content (pieceOf file.lines content)) :
    IsPlain file.fileName := by
  obtain ⟨⟨disposition, hheaders, hparameters⟩, -⟩ := h
  rw [pieceOf, file.lines_eq, List.flatMap_cons, List.append_assoc, List.append_assoc] at hheaders
  by_cases hbroken : ['\r', '\n'] <:+: file.fileName.toList
  · -- the first line ends within the name, so what is read of it is shorter
    obtain ⟨text, bytes, hclear, hshort, hline⟩ := exists_first_line hbroken
    rw [hline, List.append_assoc, List.cons_append, List.cons_append] at hheaders
    obtain ⟨rest, hread⟩ := exists_unquote?_of_headersOf? hclear hheaders hparameters
    have hlength := length_of_unquote? hread
    omega
  · -- the first line is whole
    obtain ⟨rest, hread⟩ :=
      exists_unquote?_of_headersOf? (not_infix_quoted hbroken) hheaders hparameters
    rw [String.toList_append] at hread
    obtain ⟨-, hquotes, hescapes⟩ := plain_of_unquote? hread
    exact ⟨hquotes, hescapes, hbroken⟩

/-- **A reader gets back the name of a file exactly if it is plain.** -/
theorem keepsName_iff (htype : file.contentType = some type) (hunbroken : IsUnbroken type) :
    KeepsName boundary file.fileName type (file.header boundary) ↔ IsPlain file.fileName := by
  constructor
  · intro h
    obtain ⟨piece, hpiece, hfile⟩ := h []
    rw [file.header_eq, file.written_eq] at hpiece
    exact isPlain_of_tellsFile (List.append_cancel_left hpiece ▸ hfile)
  · intro hplain content
    refine ⟨_, ?_, tellsFile_of_isPlain hplain htype hunbroken content⟩
    rw [file.header_eq, file.written_eq]

end Header

/-- Behind its fields a form brings the header of its file. -/
theorem Encoder.pull_fileHeader {form : Form} {file : FilePart} (hfile : form.file = some file)
    (opened : OpenFile) :
    ((start form opened).after form.fields.length).pull.1 =
      .ok ⟨file.header form.boundary, true⟩ := by
  apply pull_after_of_leading
  show (form.leadingChunks (blocksOf opened.reads))[form.fields.length]? = _
  have hfields : form.fields.length =
      (form.fields.map fun field => (⟨field.written form.boundary, true⟩ : Chunk)).length :=
    (List.length_map _).symm
  rw [Form.leadingChunks, hfields, List.getElem?_append_right (Nat.le_refl _), Nat.sub_self,
    Form.fileChunks, hfile, file.header_eq]
  rfl

end Multipart

/-! ### Models -/

namespace Model

open Multipart

/-- The file at a path, under the name that the path has, or else under that of the model. -/
def filePart (m : Model) (path : Path) : FilePart :=
  ⟨path, path.fileName?.getD m.name, some contentType⟩

theorem form_eq (m : Model) (boundary : String) (path : Path) : m.form boundary path =
    ⟨boundary, m.fields.map fun f => ⟨f.1, Text.utf8 f.2⟩, some (m.filePart path)⟩ := by
  unfold form fields
  split <;> rfl

section Header

variable {files : FileOpener} {opened : OpenFile} {path : Path}

/-- Behind the fields the encoder of a model brings the header of its file. -/
theorem exists_pull_header (hopen : files path = .ok opened) (m : Model) (boundary : String) :
    ∃ e, Encoder.ofForm files (m.form boundary path) = .ok e ∧
      (e.after m.fields.length).pull.1 = .ok ⟨(m.filePart path).header boundary, true⟩ := by
  have hlength : (m.form boundary path).fields.length = m.fields.length := by
    rw [form_eq, List.length_map]
  have hfile : (m.form boundary path).file = some (m.filePart path) := by rw [form_eq]
  have hboundary : (m.form boundary path).boundary = boundary := by rw [form_eq]
  have hopened : ∀ file, (m.form boundary path).file = some file →
      files file.path = .ok opened := by
    intro file h
    rw [hfile] at h
    cases h
    exact hopen
  refine ⟨_, Encoder.ofForm_eq_start hopened, ?_⟩
  rw [← hlength, Encoder.pull_fileHeader hfile, hboundary]

theorem keepsName_header_iff (m : Model) (boundary : String) (path : Path) :
    KeepsName boundary (path.fileName?.getD m.name) contentType
        ((m.filePart path).header boundary) ↔ IsPlain (path.fileName?.getD m.name) := by
  have htype : (m.filePart path).contentType = some contentType := rfl
  exact keepsName_iff htype (by decide)

end Header

/-- **The name of a file is kept exactly if it is plain.** Behind the fields the encoder of every
model writes a header, and a reader gets the name back from it if and only if no letter of the name
means anything there. -/
theorem file_name_kept_iff (files : FileOpener) (m : Model) (boundary : String) (path : Path)
    (opened : OpenFile) (hopen : files path = .ok opened) :
    ∃ e header, Encoder.ofForm files (m.form boundary path) = .ok e ∧
      (e.after m.fields.length).pull.1 = .ok ⟨header, true⟩ ∧
      (KeepsName boundary (path.fileName?.getD m.name) contentType header ↔
        IsPlain (path.fileName?.getD m.name)) := by
  obtain ⟨e, hopened, hpull⟩ := exists_pull_header hopen m boundary
  exact ⟨e, _, hopened, hpull, keepsName_header_iff m boundary path⟩

/-- A model in the default group. -/
def sample : Model := ⟨"p", "", "n"⟩

/-- A file with one line. -/
def sampleFiles : FileOpener := fun _ => .ok ⟨4, [.ok [71, 50, 56, 10]]⟩

/-- A name with a blank is plain. -/
theorem file_name_kept_of_blank :
    sampleFiles (.ofText "models/a b.gcode") = .ok ⟨4, [.ok [71, 50, 56, 10]]⟩ ∧
    ∃ e header,
      Encoder.ofForm sampleFiles (sample.form "replink-00" (.ofText "models/a b.gcode")) = .ok e ∧
      (e.after sample.fields.length).pull.1 = .ok ⟨header, true⟩ ∧
      KeepsName "replink-00" "a b.gcode" contentType header := by
  have hname : (Path.ofText "models/a b.gcode").fileName?.getD sample.name = "a b.gcode" := by
    decide +kernel
  have hplain : IsPlain "a b.gcode" := ⟨by decide, by decide, by decide +kernel⟩
  obtain ⟨e, header, hopened, hpull, hkept⟩ := file_name_kept_iff sampleFiles sample "replink-00"
    (.ofText "models/a b.gcode") ⟨4, [.ok [71, 50, 56, 10]]⟩ rfl
  rw [hname] at hkept
  exact ⟨rfl, e, header, hopened, hpull, hkept.2 hplain⟩

/-- A name with a quotation mark is not kept: a reader finds the part of it in front of that mark,
and the rest outside of the quotation marks. -/
theorem quoted_file_name_cut :
    (Path.ofText "a\x22b.gcode").fileName? = some "a\x22b.gcode" ∧
    (∃ e header,
      Encoder.ofForm sampleFiles (sample.form "replink-00" (.ofText "a\x22b.gcode")) = .ok e ∧
      (e.after sample.fields.length).pull.1 = .ok ⟨header, true⟩ ∧
      ¬ KeepsName "replink-00" "a\x22b.gcode" contentType header) ∧
    unquote? "a\x22b.gcode\x22".toList = some ("a".toList, "b.gcode\x22".toList) := by
  have hname : (Path.ofText "a\x22b.gcode").fileName? = some "a\x22b.gcode" := by decide +kernel
  have hopen : sampleFiles (.ofText "a\x22b.gcode") = .ok ⟨4, [.ok [71, 50, 56, 10]]⟩ := rfl
  obtain ⟨e, hopened, hpull⟩ := exists_pull_header hopen sample "replink-00"
  have hkept := keepsName_header_iff sample "replink-00" (.ofText "a\x22b.gcode")
  rw [hname, Option.getD_some] at hkept
  refine ⟨hname, ⟨e, _, hopened, hpull, fun h => ?_⟩, by decide⟩
  exact absurd (hkept.1 h).unquoted (by decide)

end Model

end PrintClient
