import PrintClient.Endpoint
import PrintClient.Multipart.Encoder

/-!
# Uploads of models

A model is sent to its printer by one POST with a form as its body. All that can fail without the
server is checked first, in this order: the URL, the key, the file.

* `Model`, `Model.form`: what a model is called, and the form that carries it;
* `UploadRequest`, `UploadRequest.prepare`: the request, or why there is none;
* `Exchange`, `post`: what is done over an HTTP client, with the requests that it was handed;
* `upload`: the whole exchange over a given HTTP client.
-/

namespace PrintClient

/-- The printer that a model is for, its group there, which is empty for the default group, and its
name. -/
structure Model where
  printer : String
  group : String
  name : String
  deriving DecidableEq

namespace Model

/-- The type of the content of every model. -/
def contentType : String := "application/octet-stream"

/-- The fields that describe a model. -/
def fields (m : Model) : List (String × String) :=
  [("a", "upload"), ("name", m.name)] ++ if m.group = "" then [] else [("group", m.group)]

/-- The form that carries the file at a path as this model. -/
def form (m : Model) (boundary : String) (path : Path) : Multipart.Form :=
  (m.fields.foldl (fun form f => form.text f.1 f.2) (Multipart.Form.empty boundary)).attach
    ⟨path, path.fileName?.getD m.name, some contentType⟩

end Model

/-- How the program names itself in HTTP requests. -/
def userAgent : String := "replink/0.1.0"

/-- How long an HTTP exchange may take; without a limit large uploads run as long as they need. -/
structure HttpSettings where
  connectTimeout : Nat
  timeout : Option Nat
  deriving DecidableEq, Repr

/-- The limits of an exchange that was not told otherwise, in milliseconds. -/
def HttpSettings.default : HttpSettings := ⟨10000, none⟩

/-- A POST with a streamed body. -/
structure UploadRequest where
  url : Url
  apiKey : String
  contentType : String
  contentLength : Nat
  body : List (Except FileFault (List UInt8))

namespace UploadRequest

/-- The request that sends the file at a path as a model. -/
def prepare (files : FileOpener) (endpoint : Endpoint) (model : Model) (boundary : String)
    (path : Path) : Except Failure UploadRequest :=
  match endpoint.uploadUrl model.printer with
  | .error fault => .error (.invalidUrl fault)
  | .ok url =>
    match endpoint.checkKey with
    | .error failure => .error failure
    | .ok () =>
      match Multipart.Encoder.ofForm files (model.form boundary path) with
      | .error fault => .error (.file fault)
      | .ok encoder =>
        .ok { url, apiKey := endpoint.apiKey, contentType := encoder.form.contentType
              contentLength := encoder.contentLength, body := encoder.stream }

end UploadRequest

/-- An HTTP client: the status that a request is answered with, or why there is none. -/
abbrev HttpClient := UploadRequest → Except HttpFault Nat

/-- Whether a status tells that the model was stored. -/
def isUploaded (status : Nat) : Bool := status = 200 || status = 204

/-- What the status of the answer means. -/
def uploadOutcome (status : Nat) : Except Failure Unit :=
  if isUploaded status then .ok () else .error (.serverError status)

/-- What is done over an HTTP client: it may fail, and it keeps a log of the requests that the
client was handed. -/
abbrev Exchange := ExceptT Failure (StateM (List UploadRequest))

/-- Hands a request to the client, and waits for the answer. -/
def post (client : HttpClient) (request : UploadRequest) : Exchange Nat := do
  modify fun log => log ++ [request]
  match client request with
  | .ok status => return status
  | .error fault => throw (.http fault)

/-- Sends the file at a path as a model. -/
def upload (files : FileOpener) (client : HttpClient) (endpoint : Endpoint) (model : Model)
    (boundary : String) (path : Path) : Exchange Unit := do
  let request ← liftExcept (UploadRequest.prepare files endpoint model boundary path)
  let status ← post client request
  liftExcept (uploadOutcome status)

end PrintClient
