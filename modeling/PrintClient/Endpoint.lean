import PrintClient.Text.Quoted
import PrintClient.Url.Basic

/-!
# Endpoints

An `Endpoint` is the address of a server together with the key that authenticates against it. Both
the socket of a session and the uploads are addressed by URLs made from it.

* `Endpoint.socketUrl`, `Endpoint.uploadUrl`: the two URLs;
* `Endpoint.describe`: the endpoint in a report, without its key;
* `Endpoint.checkKey`: whether a header can carry the key.
-/

namespace PrintClient

/-- The port that a server listens on unless it was told otherwise. -/
def defaultPort : UInt16 := 3344

/-- The only segment of the socket's path. -/
def socketSegment : String := "socket"

/-- The path of the socket on a server. -/
def socketPath : String := "/" ++ socketSegment

/-- The header that carries the API key of an upload. -/
def apiKeyHeader : String := "x-api-key"

/-- The address of a server and the API key for it. -/
structure Endpoint where
  host : String
  port : UInt16
  apiKey : String
  deriving DecidableEq

namespace Endpoint

/-- The address as host and port. -/
def server (e : Endpoint) : String := e.host ++ ":" ++ toString e.port.toNat

/-- The host as it stands in a URL: one with colons is put into brackets unless it begins with one.
-/
def hostText (e : Endpoint) : String :=
  if e.host.toList.contains ':' ∧ e.host.toList.head? ≠ some '[' then "[" ++ e.host ++ "]"
  else e.host

/-- The URL of the server under a scheme. -/
def baseUrl (e : Endpoint) (scheme : Scheme) : Except UrlFault Url :=
  match Url.parse (scheme.name ++ "://" ++ e.hostText ++ ":" ++ toString e.port.toNat ++ "/") with
  | .ok (some u) => .ok u
  | .ok none => .error .relativeWithoutBase
  | .error f => .error f

/-- The URL of the socket. -/
def socketUrl (e : Endpoint) : Except UrlFault Url :=
  (e.baseUrl .ws).map fun u => { u with path := [socketSegment] }

/-- The URL that models for a printer are sent to; the slug is encoded. -/
def uploadUrl (e : Endpoint) (printer : String) : Except UrlFault Url :=
  (e.baseUrl .http).map fun u =>
    { u with path := Url.pushSegment ["printer", "model"] printer }

/-- The endpoint in a report. -/
def describe (e : Endpoint) : String :=
  "Endpoint \x7b host: " ++ Text.quoted e.host ++ ", port: " ++ toString e.port.toNat ++
    ", api_key: \x22[REDACTED]\x22 \x7d"

/-- Whether a byte may stand in the value of a header. -/
def isHeaderByte (b : UInt8) : Bool := (0x20 ≤ b && b ≠ 0x7f) || b = 0x09

/-- Whether a header can carry the API key. -/
def checkKey (e : Endpoint) : Except Failure Unit :=
  if (Text.utf8 e.apiKey).all isHeaderByte then .ok () else .error (.violation .apiKeyHeader)

end Endpoint

end PrintClient
