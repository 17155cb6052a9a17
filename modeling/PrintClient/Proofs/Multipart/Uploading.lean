import PrintClient.Proofs.Multipart.FileNames
import PrintClient.Proofs.Multipart.Streams
import PrintClient.Upload

/-!
# Uploads from end to end

An upload is given up on the spot, or it is one request and what the answer to it means. Which of
the two is decided by the URL, the key and the file, in this order. The request announces what its
body is: the boundary between the parts, and the number of bytes.

* `Sends`, `SendsNothing`: what an exchange comes to with every client, and what it adds to the log
  of requests; `Sends.unique`, `Sends.not_sendsNothing`: it is one request, or none;
* `Obstacle`: why an upload is given up;
* `Model.written`: the body that carries a model, letter by letter;
* `Carries`: a request whose head and body are those of a model;
* `upload_is_one_request`: the whole upload.
-/

namespace PrintClient

open Text (utf8)
open Multipart (EndsAfter FailsAfter Holds)

/-! ### Exchanges -/

/-- An exchange is one request: the client is handed this request and no other, and its answer
decides. -/
structure Sends (exchange : HttpClient → Exchange Unit) (request : UploadRequest) : Prop where
  accepted : ∀ client log status, client request = .ok status → status = 200 ∨ status = 204 →
    (exchange client).run.run log = (.ok (), log ++ [request])
  refused : ∀ client log status, client request = .ok status → ¬ (status = 200 ∨ status = 204) →
    (exchange client).run.run log = (.error (.serverError status), log ++ [request])
  broken : ∀ client log fault, client request = .error fault →
    (exchange client).run.run log = (.error (.http fault), log ++ [request])

/-- An exchange fails without a request: the client is handed nothing. -/
def SendsNothing (exchange : HttpClient → Exchange Unit) (failure : Failure) : Prop :=
  ∀ client log, (exchange client).run.run log = (.error failure, log)

section Exchange

variable {exchange : HttpClient → Exchange Unit} {request other : UploadRequest} {failure : Failure}

/-- A client that accepts everything is handed the request. -/
theorem Sends.log_eq (h : Sends exchange request) :
    ((exchange fun _ => .ok 200).run.run []).2 = [request] := by
  rw [h.accepted _ [] 200 rfl (.inl rfl), List.nil_append]

theorem Sends.unique (h : Sends exchange request) (h' : Sends exchange other) :
    request = other :=
  List.singleton_inj.1 (h.log_eq.symm.trans h'.log_eq)

theorem Sends.not_sendsNothing (h : Sends exchange request) : ¬ SendsNothing exchange failure := by
  intro hnothing
  have hlog := h.log_eq
  rw [hnothing] at hlog
  cases hlog

end Exchange

/-! ### What keeps an upload from being sent -/

/-- A letter that a header cannot have. -/
def IsUnfit (b : UInt8) : Prop := b < 0x20 ∧ b ≠ 0x09 ∨ b = 0x7f

/-- Why an upload is given up: the URL first, then the key, then the file. -/
inductive Obstacle (files : FileOpener) (endpoint : Endpoint) (model : Model) (path : Path) :
    Failure → Prop
  | url {fault : UrlFault} (hurl : endpoint.uploadUrl model.printer = .error fault) :
    Obstacle files endpoint model path (.invalidUrl fault)
  | key {url : Url} {b : UInt8} (hurl : endpoint.uploadUrl model.printer = .ok url)
      (hmem : b ∈ utf8 endpoint.apiKey) (hb : IsUnfit b) :
    Obstacle files endpoint model path (.violation .apiKeyHeader)
  | file {url : Url} {fault : FileFault} (hurl : endpoint.uploadUrl model.printer = .ok url)
      (hkey : ∀ b ∈ utf8 endpoint.apiKey, ¬ IsUnfit b) (hfile : files path = .error fault) :
    Obstacle files endpoint model path (.file fault)

theorem isHeaderByte_iff (b : UInt8) : Endpoint.isHeaderByte b = true ↔ ¬ IsUnfit b := by
  have hge : (0x20 ≤ b) ↔ ¬ b < 0x20 := UInt8.not_lt.symm
  simp only [Endpoint.isHeaderByte, IsUnfit, Bool.or_eq_true, Bool.and_eq_true, decide_eq_true_eq,
    hge]
  by_cases h9 : b = 0x09
  · subst h9
    decide
  · by_cases h127 : b = 0x7f
    · subst h127
      decide
    · simp [h9, h127]

theorem checkKey_cases (endpoint : Endpoint) :
    (endpoint.checkKey = .ok () ∧ ∀ b ∈ utf8 endpoint.apiKey, ¬ IsUnfit b) ∨
      (endpoint.checkKey = .error (.violation .apiKeyHeader) ∧
        ∃ b ∈ utf8 endpoint.apiKey, IsUnfit b) := by
  unfold Endpoint.checkKey
  split_ifs with hall
  · left
    rw [List.all_eq_true] at hall
    exact ⟨rfl, fun b hb => (isHeaderByte_iff b).1 (hall b hb)⟩
  · right
    rw [List.all_eq_true] at hall
    obtain ⟨b, hb⟩ := not_forall.1 hall
    obtain ⟨hmem, hunfit⟩ := Classical.not_imp.1 hb
    rw [isHeaderByte_iff, not_not] at hunfit
    exact ⟨rfl, b, hmem, hunfit⟩

/-! ### The body of a model -/

namespace Model

/-- The part of a text field. -/
def fieldText (boundary name value : String) : String :=
  "--" ++ boundary ++ "\r\nContent-Disposition: form-data; name=\x22" ++ name ++ "\x22\r\n\r\n" ++
    value ++ "\r\n"

/-- The body that carries a file with this content as a model. The file has the name that the path
ends in; a path without one has the name of the model. -/
def written (m : Model) (boundary : String) (path : Path) (content : List UInt8) : List UInt8 :=
  utf8 (fieldText boundary "a" "upload" ++ fieldText boundary "name" m.name ++
    (if m.group = "" then "" else fieldText boundary "group" m.group) ++
    "--" ++ boundary ++
    "\r\nContent-Disposition: form-data; name=\x22filename\x22; filename=\x22" ++
    path.fileName?.getD m.name ++ "\x22\r\nContent-Type: application/octet-stream\r\n\r\n") ++
  content ++ utf8 ("\r\n--" ++ boundary ++ "--\r\n")

theorem utf8_fieldText (boundary name value : String) : utf8 (fieldText boundary name value) =
    Multipart.Field.written boundary ⟨name, utf8 value⟩ := by
  simp only [fieldText, Multipart.Field.written, Text.utf8_append, List.append_assoc]

/-- The fields of a model, one after the other. -/
theorem flatMap_fields (m : Model) (boundary : String) :
    (m.fields.map fun f => (⟨f.1, utf8 f.2⟩ : Multipart.Field)).flatMap
        (Multipart.Field.written boundary) =
      utf8 (fieldText boundary "a" "upload" ++ fieldText boundary "name" m.name ++
        if m.group = "" then "" else fieldText boundary "group" m.group) := by
  rw [Text.utf8_append, Text.utf8_append, utf8_fieldText, utf8_fieldText, fields]
  by_cases hgroup : m.group = ""
  · rw [if_pos hgroup, if_pos hgroup, show utf8 "" = [] from rfl, List.append_nil, List.append_nil]
    simp only [List.map_cons, List.map_nil, List.flatMap_cons, List.flatMap_nil, List.append_nil]
  · rw [if_neg hgroup, if_neg hgroup, utf8_fieldText]
    simp only [List.cons_append, List.nil_append, List.map_cons, List.map_nil, List.flatMap_cons,
      List.flatMap_nil, List.append_nil, List.append_assoc]

/-- What stands before the bytes of the file. -/
theorem written_filePart (m : Model) (boundary : String) (path : Path) :
    (m.filePart path).written boundary =
      utf8 ("--" ++ boundary ++
        "\r\nContent-Disposition: form-data; name=\x22filename\x22; filename=\x22" ++
        path.fileName?.getD m.name ++
        "\x22\r\nContent-Type: application/octet-stream\r\n\r\n") := by
  have hends : utf8 "\x22\r\nContent-Type: application/octet-stream\r\n\r\n" =
      utf8 "\x22\r\n" ++ utf8 ("Content-Type: " ++ contentType ++ "\r\n") ++ utf8 "\r\n" := by
    rw [← Text.utf8_append, ← Text.utf8_append]
    rfl
  rw [Text.utf8_append _ "\x22\r\nContent-Type: application/octet-stream\r\n\r\n", hends,
    Multipart.FilePart.written, Text.utf8_append _ "\x22\r\n"]
  simp only [filePart, List.append_assoc]

theorem reference_form (m : Model) (boundary : String) (path : Path) (content : List UInt8) :
    (m.form boundary path).reference content = m.written boundary path content := by
  rw [form_eq, written, Multipart.Form.reference, Multipart.Form.ending, flatMap_fields]
  simp only [written_filePart, Text.utf8_append, List.append_assoc]

end Model

/-! ### The request of a model -/

/-- The head and the body of a request are those of a model whose file was opened. -/
structure Carries (m : Model) (boundary : String) (path : Path) (opened : OpenFile)
    (request : UploadRequest) : Prop where
  /-- The head names the boundary. -/
  type : request.contentType = "multipart/form-data; boundary=" ++ boundary
  /-- The head tells the number of bytes of a body with a file of the length that this one had when
  it was opened. -/
  length : ∀ content : List UInt8, content.length = opened.length →
    request.contentLength = (m.written boundary path content).length
  /-- If no read fails, the body is that of the model with what the reads bring. -/
  whole : ∀ blocks, EndsAfter opened.reads blocks →
    ∃ items : List (List UInt8), request.body = items.map .ok ∧
    items.flatten = m.written boundary path blocks.flatten
  /-- If a read fails, the body ends there with the fault. -/
  broken : ∀ blocks fault, FailsAfter opened.reads blocks fault → ∃ items : List (List UInt8),
    request.body = items.map .ok ++ [.error fault] ∧
      ∀ rest, items.flatten <+: m.written boundary path (blocks.flatten ++ rest)

/-- A file that does not change is sent as it is, and its body has the length that the head
tells. -/
theorem Carries.holds {m : Model} {boundary : String} {path : Path} {opened : OpenFile}
    {request : UploadRequest} (h : Carries m boundary path opened request) {content : List UInt8}
    (hfile : Holds opened content) : ∃ items : List (List UInt8), request.body = items.map .ok ∧
      items.flatten = m.written boundary path content ∧
      request.contentLength = items.flatten.length := by
  obtain ⟨blocks, hends, rfl⟩ := hfile.reads
  obtain ⟨items, hbody, hitems⟩ := h.whole blocks hends
  exact ⟨items, hbody, hitems, by rw [hitems, h.length _ hfile.length.symm]⟩

section Requests

variable {files : FileOpener} {endpoint : Endpoint} {m : Model} {boundary : String} {path : Path}
  {opened : OpenFile} {url : Url} {request : UploadRequest} {failure : Failure}

theorem isSome_file_form (m : Model) (boundary : String) (path : Path) :
    (m.form boundary path).file.isSome = true := by
  rw [Model.form_eq]
  rfl

theorem openedAs_form (m : Model) (boundary : String) (path : Path) (opened : OpenFile) :
    (m.form boundary path).openedAs opened = opened := if_pos (isSome_file_form m boundary path)

/-- The body of a model up to the end of what the reads bring. -/
theorem prefix_written (blocks : List (List UInt8)) (rest : List UInt8) :
    (((m.form boundary path).leadingChunks blocks).map Multipart.Chunk.bytes).flatten <+:
      m.written boundary path (blocks.flatten ++ rest) := by
  refine ⟨rest ++ (m.form boundary path).ending, ?_⟩
  rw [← Model.reference_form, Model.form_eq]
  simp [Multipart.Form.leadingChunks, Multipart.Form.fileChunks, Multipart.Form.reference,
    List.flatMap_def, Function.comp_def]

/-- The request that is prepared when there is no obstacle. -/
theorem carries_start (url : Url) (key : String) :
    Carries m boundary path opened
      ⟨url, key, (m.form boundary path).contentType,
        (Multipart.Encoder.start (m.form boundary path) opened).contentLength,
        (Multipart.Encoder.start (m.form boundary path) opened).stream⟩ := by
  have hsome := isSome_file_form m boundary path
  refine ⟨?_, fun content hlength => ?_, fun blocks hends => ?_, fun blocks fault hfails => ?_⟩
  · rw [Model.form_eq]
    rfl
  · rw [← Model.reference_form, Multipart.Form.reference_eq, Multipart.Form.length_body,
      Multipart.Form.length_fileBytes fun _ => hlength.symm, openedAs_form]
    rfl
  · have hread : (m.form boundary path).file.isSome → EndsAfter opened.reads blocks :=
      fun _ => hends
    have hstreams := Multipart.Encoder.streamsTo_of_endsAfter hread
    rw [openedAs_form] at hstreams
    have hstream := (hstreams.rounds _).1 (Multipart.Encoder.yields_stream _)
    refine ⟨((m.form boundary path).chunks blocks).map Multipart.Chunk.bytes, ?_, ?_⟩
    · rw [hstream, Multipart.Form.chunks]
      simp [Except.map]
    · rw [← List.flatMap_def, Multipart.Form.flatMap_chunks, Model.reference_form]
  · have hstreams := Multipart.Encoder.streamsTo_of_failsAfter hsome hfails
    rw [openedAs_form] at hstreams
    have hstream := (hstreams.rounds _).1 (Multipart.Encoder.yields_stream _)
    refine ⟨((m.form boundary path).leadingChunks blocks).map Multipart.Chunk.bytes, ?_, fun rest =>
      prefix_written blocks rest⟩
    rw [hstream]
    simp [Except.map]

/-- An upload whose request cannot be prepared sends nothing. -/
theorem sendsNothing_of_prepare
    (h : UploadRequest.prepare files endpoint m boundary path = .error failure) :
    SendsNothing (upload files · endpoint m boundary path) failure := by
  intro client log
  unfold upload
  rw [h]
  rfl

theorem prepare_of_obstacle (h : Obstacle files endpoint m path failure) :
    UploadRequest.prepare files endpoint m boundary path = .error failure := by
  unfold UploadRequest.prepare
  cases h with
  | url hurl => rw [hurl]
  | @key url b hurl hmem hb =>
    obtain ⟨-, hkey⟩ | ⟨hcheck, -⟩ := checkKey_cases endpoint
    · exact absurd hb (hkey b hmem)
    · rw [hurl, hcheck]
  | file hurl hkey hfile =>
    obtain ⟨hcheck, -⟩ | ⟨-, b, hb, hunfit⟩ := checkKey_cases endpoint
    · rw [hurl, hcheck]
      simp [Multipart.Encoder.ofForm, Model.form_eq, Model.filePart, hfile, Except.map]
    · exact absurd hunfit (hkey b hb)

/-- What is done with a request that was prepared. -/
theorem upload_of_prepare (h : UploadRequest.prepare files endpoint m boundary path = .ok request)
    (client : HttpClient) : upload files client endpoint m boundary path =
      post client request >>= fun status => liftExcept (uploadOutcome status) := by
  unfold upload
  rw [h]
  rfl

/-- What is posted is in the log when the answer is looked at. -/
theorem run_post_of_ok {client : HttpClient} {status : Nat} (hclient : client request = .ok status)
    (next : Nat → Exchange Unit) (log : List UploadRequest) :
    (post client request >>= next).run.run log = (next status).run.run (log ++ [request]) := by
  unfold post
  rw [hclient]
  rfl

/-- What is posted is in the log even if there is no answer. -/
theorem run_post_of_error {client : HttpClient} {fault : HttpFault}
    (hclient : client request = .error fault) (next : Nat → Exchange Unit)
    (log : List UploadRequest) :
    (post client request >>= next).run.run log = (.error (.http fault), log ++ [request]) := by
  unfold post
  rw [hclient]
  rfl

/-- An upload whose request is prepared is this request. -/
theorem sends_of_prepare (h : UploadRequest.prepare files endpoint m boundary path = .ok request) :
    Sends (upload files · endpoint m boundary path) request := by
  refine ⟨fun client log status hclient hstatus => ?_, fun client log status hclient hstatus => ?_,
    fun client log fault hclient => ?_⟩
  · have hout : uploadOutcome status = .ok () := by simp [uploadOutcome, isUploaded, hstatus]
    rw [upload_of_prepare h, run_post_of_ok hclient, hout]
    rfl
  · have hout : uploadOutcome status = .error (.serverError status) := by
      simp [uploadOutcome, isUploaded, hstatus]
    rw [upload_of_prepare h, run_post_of_ok hclient, hout]
    rfl
  · rw [upload_of_prepare h, run_post_of_error hclient]

theorem ofForm_form (hfile : files path = .ok opened) :
    Multipart.Encoder.ofForm files (m.form boundary path) =
      .ok (Multipart.Encoder.start (m.form boundary path) opened) := by
  rw [Multipart.Encoder.ofForm, Model.form_eq]
  simp [Model.filePart, hfile, Except.map]

/-- Something is in the way, or a request is prepared. -/
theorem prepare_cases (files : FileOpener) (endpoint : Endpoint) (m : Model) (boundary : String)
    (path : Path) :
    (∃ failure, Obstacle files endpoint m path failure) ∨
    ∃ request opened, files path = .ok opened ∧ endpoint.uploadUrl m.printer = .ok request.url ∧
      request.apiKey = endpoint.apiKey ∧ Carries m boundary path opened request ∧
      UploadRequest.prepare files endpoint m boundary path = .ok request := by
  cases hurl : endpoint.uploadUrl m.printer with
  | error fault => exact .inl ⟨_, .url hurl⟩
  | ok url =>
    obtain ⟨hcheck, hkey⟩ | ⟨-, b, hb, hunfit⟩ := checkKey_cases endpoint
    · cases hfile : files path with
      | error fault => exact .inl ⟨_, .file hurl hkey hfile⟩
      | ok opened =>
        refine .inr ⟨_, opened, rfl, rfl, rfl, carries_start url endpoint.apiKey, ?_⟩
        unfold UploadRequest.prepare
        rw [hurl, hcheck, ofForm_form hfile]
        rfl
    · exact .inl ⟨_, .key hurl hb hunfit⟩

end Requests

/-- **An upload is given up on the spot, with nothing sent, exactly if the URL cannot be made, the
key is no value of a header or the file cannot be opened; or else it is exactly one request**, to
the URL for the printer and with the head and the body of the model, and it succeeds exactly if the
answer to it has one of two statuses. What is sent is what the client is handed. -/
theorem upload_is_one_request (files : FileOpener) (endpoint : Endpoint) (m : Model)
    (boundary : String) (path : Path) :
    (∀ failure, SendsNothing (upload files · endpoint m boundary path) failure ↔
      Obstacle files endpoint m path failure) ∧
    ((∀ failure, ¬ Obstacle files endpoint m path failure) →
      ∃ request opened, files path = .ok opened ∧ endpoint.uploadUrl m.printer = .ok request.url ∧
        request.apiKey = endpoint.apiKey ∧ Carries m boundary path opened request ∧
        (∀ content, Holds opened content → ∃ items : List (List UInt8),
          request.body = items.map .ok ∧ items.flatten = m.written boundary path content ∧
          request.contentLength = items.flatten.length) ∧
        ∀ sent, Sends (upload files · endpoint m boundary path) sent ↔ sent = request) := by
  have hnothing : ∀ failure, Obstacle files endpoint m path failure →
      SendsNothing (upload files · endpoint m boundary path) failure :=
    fun failure h => sendsNothing_of_prepare (prepare_of_obstacle h)
  obtain ⟨failure, hobstacle⟩ | ⟨request, opened, hopen, hurl, hkey, hcarries, hprepare⟩ :=
    prepare_cases files endpoint m boundary path
  · refine ⟨fun other => ⟨fun h => ?_, hnothing other⟩,
      fun hfree => absurd hobstacle (hfree failure)⟩
    have hsame := (hnothing failure hobstacle (fun _ => .ok 200) []).symm.trans
      (h (fun _ => .ok 200) [])
    cases hsame
    exact hobstacle
  · have hsends := sends_of_prepare hprepare
    refine ⟨fun other => ⟨fun h => absurd h hsends.not_sendsNothing, hnothing other⟩, fun _ => ?_⟩
    refine ⟨request, opened, hopen, hurl, hkey, hcarries, fun content => hcarries.holds,
      fun sent => ?_⟩
    constructor
    · exact fun h => h.unique hsends
    · rintro rfl
      exact hsends

/-- A server with a key that a header can have. -/
def sampleEndpoint : Endpoint := ⟨"h", 80, "k"⟩

/-- A file with one line is sent as one request; without the file nothing is sent. -/
theorem upload_of_sampleFiles :
    (∃ request, (∃ items : List (List UInt8), request.body = items.map .ok ∧
        items.flatten = Model.sample.written "B" (.ofText "a.gcode") [71, 50, 56, 10] ∧
        request.contentLength = items.flatten.length) ∧
      Sends (upload Model.sampleFiles · sampleEndpoint Model.sample "B" (.ofText "a.gcode"))
        request) ∧
    SendsNothing (upload (fun _ => .error .notFound) · sampleEndpoint Model.sample "B"
      (.ofText "a.gcode")) (.file .notFound) := by
  obtain ⟨url, hurl⟩ : ∃ url, sampleEndpoint.uploadUrl Model.sample.printer = .ok url := by
    have hsome : (sampleEndpoint.uploadUrl Model.sample.printer).toOption.isSome = true := by
      decide +kernel
    cases hurl : sampleEndpoint.uploadUrl Model.sample.printer with
    | error fault =>
      rw [hurl] at hsome
      cases hsome
    | ok url => exact ⟨url, rfl⟩
  have hkey : ∀ b ∈ utf8 sampleEndpoint.apiKey, ¬ IsUnfit b := by
    simp only [← isHeaderByte_iff]
    decide +kernel
  have hfree (failure : Failure) :
      ¬ Obstacle Model.sampleFiles sampleEndpoint Model.sample (.ofText "a.gcode") failure := by
    rintro (h | ⟨-, hmem, hb⟩ | ⟨-, -, hfile⟩)
    · cases hurl.symm.trans h
    · exact hkey _ hmem hb
    · cases hfile
  have hholds : Holds ⟨4, [.ok [71, 50, 56, 10]]⟩ [71, 50, 56, 10] :=
    ⟨rfl, [[71, 50, 56, 10]], ⟨by decide, .inl rfl⟩, rfl⟩
  obtain ⟨request, opened, hopen, -, -, -, hcontent, hsent⟩ := (upload_is_one_request
    Model.sampleFiles sampleEndpoint Model.sample "B" (.ofText "a.gcode")).2 hfree
  cases hopen
  refine ⟨⟨request, hcontent _ hholds, (hsent request).2 rfl⟩, ?_⟩
  exact ((upload_is_one_request (fun _ => .error .notFound) sampleEndpoint Model.sample "B"
    (.ofText "a.gcode")).1 _).2 (.file hurl hkey rfl)

end PrintClient
