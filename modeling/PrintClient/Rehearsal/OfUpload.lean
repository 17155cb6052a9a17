import PrintClient.Rehearsal.Server
import PrintClient.Upload

/-!
# Rehearsals of an upload

The scripted server reads the whole request and then answers with a status, or hangs up.

* `httpClient`: the client in front of a scripted server;
* `receivedUploads`: the requests that the server received.
-/

namespace PrintClient.Rehearsal

/-- Whether the whole body of a request can be sent. -/
def isWhole (request : UploadRequest) : Bool :=
  request.body.all fun item =>
    match item with
    | .ok _ => true
    | .error _ => false

/-- An HTTP client in front of a server that answers with a status, or hangs up without one. -/
def httpClient (network : Network) (status : Option Nat) : HttpClient := fun request =>
  match network with
  | .unreachable reason => .error (.connect reason)
  | .scripted =>
    match isWhole request, status with
    | true, some status => .ok status
    | true, none => .error (.broken "connection closed before message completed")
    | false, _ => .error (.broken "error from user's Body stream")

/-- What the server has received of the requests that its client was handed. -/
def receivedUploads (network : Network) (posted : List UploadRequest) : List UploadRequest :=
  match network with
  | .unreachable _ => []
  | .scripted => posted.filter isWhole

end PrintClient.Rehearsal
