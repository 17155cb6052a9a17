import PrintClient.Json.Fault

/-!
# What can go wrong in an exchange with the server

A `Failure` is the cause of a request, a connection or an upload that did not succeed. Every failure
has one coarse `Kind`; some are transient, so that the same operation may succeed later.

* `UrlFault`, `FileFault`, `HttpFault`, `Violation`: causes met by one part of the program each;
* `Failure`, `Failure.kind`, `Failure.isTransient`, `Failure.message`.
-/

namespace PrintClient

/-- Why a text is no URL. -/
inductive UrlFault where
  | emptyHost
  | domainName
  | port
  | ipv4Address
  | ipv6Address
  | domainCharacter
  | relativeWithoutBase
  deriving DecidableEq, Repr

/-- The fault in words. -/
def UrlFault.message : UrlFault → String
  | .emptyHost => "empty host"
  | .domainName => "invalid international domain name"
  | .port => "invalid port number"
  | .ipv4Address => "invalid IPv4 address"
  | .ipv6Address => "invalid IPv6 address"
  | .domainCharacter => "invalid domain character"
  | .relativeWithoutBase => "relative URL without a base"

/-- Why a file could not be opened or read. -/
inductive FileFault where
  | notFound
  | isDirectory
  | notDirectory
  | nameTooLong
  | zeroByte
  | other (text : String)
  deriving DecidableEq, Repr

/-- The fault in the words of the system. -/
def FileFault.message : FileFault → String
  | .notFound => "No such file or directory (os error 2)"
  | .isDirectory => "Is a directory (os error 21)"
  | .notDirectory => "Not a directory (os error 20)"
  | .nameTooLong => "File name too long (os error 36)"
  | .zeroByte => "file name contained an unexpected NUL byte"
  | .other text => text

/-- Why an HTTP exchange did not take place. -/
inductive HttpFault where
  | connect (reason : String)
  | timeout
  | broken (reason : String)
  deriving DecidableEq, Repr

/-- The fault in words. -/
def HttpFault.message : HttpFault → String
  | .connect reason => reason
  | .timeout => "operation timed out"
  | .broken reason => reason

/-- How the other side, or a value meant for it, breaks the protocol. -/
inductive Violation where
  /-- A text frame that is no inbound message. -/
  | frame (fault : Json.Fault)
  /-- An event batch with a malformed element. -/
  | eventList (fault : Json.Fault)
  /-- A list of group names that is none. -/
  | groupNames (action : String) (fault : Json.Fault)
  /-- A response without the flag that tells acceptance. -/
  | noOkFlag (action : String)
  /-- An upgrade to the socket protocol that was answered otherwise. -/
  | handshake (reason : String)
  /-- An API key that no header can carry. -/
  | apiKeyHeader
  | other (text : String)
  deriving DecidableEq

/-- The violation in words. -/
def Violation.message : Violation → String
  | .frame fault => "malformed frame: " ++ fault.message
  | .eventList fault => "malformed event list: " ++ fault.message
  | .groupNames action fault => "'" ++ action ++ "' groupNames: " ++ fault.message
  | .noOkFlag action => "response to '" ++ action ++ "' lacks a boolean 'ok' flag"
  | .handshake reason => "handshake rejected: " ++ reason
  | .apiKeyHeader => "API key is not a valid header value"
  | .other text => text

/-- The cause of an operation that did not succeed. -/
inductive Failure where
  /-- Name resolution or the connection attempt failed. -/
  | connect (host : String) (port : UInt16) (reason : String)
  /-- The handshake, a read or a write failed. -/
  | webSocket (text : String)
  /-- The server closed the socket. -/
  | connectionClosed (code : Option Nat) (reason : String)
  /-- The HTTP exchange of an upload failed. -/
  | http (fault : HttpFault)
  /-- The file to upload could not be read. -/
  | file (fault : FileFault)
  /-- The address of the server makes no URL. -/
  | invalidUrl (fault : UrlFault)
  /-- No response came in time. -/
  | timeout (callbackId : Nat) (milliseconds : Nat)
  | violation (cause : Violation)
  /-- A response said that the action was refused. -/
  | notOk (action : String)
  /-- An upload was answered with a status other than success. -/
  | serverError (status : Nat)
  | alreadyConnected
  | notConnected
  | requestInFlight
  /-- The request was lost together with its connection. -/
  | disconnected
  | sessionClosed
  deriving DecidableEq

namespace Failure

/-- The coarse categories of failures. -/
inductive Kind where
  | transport
  | timeout
  | protocolViolation
  | notOk
  | serverError
  | usage
  deriving DecidableEq, Repr

/-- The category of a failure. -/
def kind : Failure → Kind
  | .connect .. | .webSocket _ | .connectionClosed .. | .http _ | .file _ | .invalidUrl _
  | .disconnected => .transport
  | .timeout .. => .timeout
  | .violation _ => .protocolViolation
  | .notOk _ => .notOk
  | .serverError _ => .serverError
  | .alreadyConnected | .notConnected | .requestInFlight | .sessionClosed => .usage

/-- Whether the same operation may succeed later. -/
def isTransient : Failure → Bool
  | .http (.connect _) | .http .timeout => true
  | .connect .. | .webSocket _ | .connectionClosed .. | .timeout .. | .disconnected => true
  | .serverError status => decide (500 ≤ status)
  | _ => false

/-- A close code, or the word for a close without one. -/
def codeText : Option Nat → String
  | none => "none"
  | some code => toString code

/-- The failure in words. -/
def message : Failure → String
  | .connect host port reason =>
    "Cannot connect to " ++ host ++ ":" ++ toString port.toNat ++ ": " ++ reason
  | .webSocket text => "WebSocket error: " ++ text
  | .connectionClosed code reason =>
    "Connection closed by server (code " ++ codeText code ++ "): " ++ reason
  | .http fault => "HTTP transport error: " ++ fault.message
  | .file fault => "I/O error: " ++ fault.message
  | .invalidUrl fault => "Invalid URL: " ++ fault.message
  | .timeout callbackId milliseconds =>
    "Request " ++ toString callbackId ++ " timed out after " ++ toString milliseconds ++ "ms"
  | .violation cause => "Protocol violation: " ++ cause.message
  | .notOk action => "Server refused '" ++ action ++ "'"
  | .serverError status => "Upload rejected (HTTP " ++ toString status ++ ")"
  | .alreadyConnected => "Connection already started"
  | .notConnected => "Not connected"
  | .requestInFlight => "A request is already awaiting a response"
  | .disconnected => "Disconnected before a response arrived"
  | .sessionClosed => "Session closed"

end Failure

end PrintClient
