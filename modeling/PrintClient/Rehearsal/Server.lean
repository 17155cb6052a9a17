import PrintClient.Action
import PrintClient.Connection.Link
import PrintClient.Rehearsal.Status

/-!
# Scripted servers

A rehearsal plays a connection or a session against a server that follows a script. The script
answers each handshake with the next `Outcome`, and between the steps of the client it takes steps
of its own. There may also be no way to the server at all.

* `Outcome`, `Outcome.decision`: answers to a handshake, and what the client makes of them;
* `ServerStep`, `ServerStep.inbound`: what the server does on an open connection, and what the
  client sees of it;
* `Entry`, `Result`: what a rehearsal records.
-/

namespace PrintClient.Rehearsal

/-- Whether there is a way to the server, or why there is none. -/
inductive Network where
  | scripted
  | unreachable (reason : String)
  deriving DecidableEq, Repr

/-- The reason when nothing listens on the port. -/
def refusedReason : String := "Connection refused (os error 111)"

/-- How the server answers a handshake. -/
inductive Outcome where
  | accept
  /-- The server hangs up without an answer. -/
  | hangup
  /-- The answer does not prove that the server speaks the protocol. -/
  | badAccept
  /-- The proof is missing. -/
  | noAccept
  /-- The header that changes the protocol is missing. -/
  | noUpgrade
  | status (code : Nat)
  deriving DecidableEq, Repr

/-- What the client makes of the answer to its handshake. -/
def Outcome.decision : Outcome → Except Failure Unit
  | .accept => .ok ()
  | .hangup => .error (.violation (.handshake "WebSocket protocol error: Handshake not finished"))
  | .badAccept | .noAccept =>
    .error (.violation (.handshake
      "WebSocket protocol error: Key mismatch in \x22Sec-WebSocket-Accept\x22 header"))
  | .noUpgrade =>
    .error (.violation (.handshake
      "WebSocket protocol error: No \x22Upgrade: websocket\x22 header"))
  | .status code => .error (.violation (.handshake ("HTTP error: " ++ statusText code)))

/-- What the server does on an open connection. -/
inductive ServerStep where
  | text (frame : String)
  /-- The response to a request, by default to the last one that the server received. -/
  | respond (id : Option Json) (data : Json)
  | events (data : Json)
  | binary
  | close (code : Option Nat) (reason : String)
  | hangup

/-- Whether a close frame may carry a code. -/
def isCloseCode (code : Nat) : Bool :=
  (1000 ≤ code && code ≤ 1003) || (1007 ≤ code && code ≤ 1013) || (3000 ≤ code && code ≤ 4999)

/-- What arrives of a close frame; a code that none may carry is taken for a breach of the protocol.
-/
def closePayload (code : Option Nat) (reason : String) : Option (Nat × String) :=
  code.map fun n => if isCloseCode n then (n, reason) else (1002, "Protocol violation")

/-- The text of a response. -/
def responseText (id data : Json) : String :=
  (Json.object [("callback_id", id), ("data", data)]).compact

/-- A whole number as a JSON value. -/
def jsonNat (n : Nat) : Json := .ofWord (UInt64.ofNat n)

/-- The number that no request has, as a JSON value. -/
def noRequest : Json := .number (.integer ⟨-1, by decide⟩)

/-- The text of a batch of events. -/
def eventsText (data : Json) : String :=
  (Json.object [("callback_id", noRequest), ("data", data), ("eventList", .bool true)]).compact

/-- The failure of the transport when the other side is gone without a word. -/
def resetReason : String := "WebSocket protocol error: Connection reset without closing handshake"

/-- What the client sees of a step of the server; `lastId` is the number of the last request that
the server received. -/
def ServerStep.inbound (lastId : Nat) : ServerStep → Inbound
  | .text frame => .text frame
  | .respond id data => .text (responseText (id.getD (jsonNat lastId)) data)
  | .events data => .text (eventsText data)
  | .binary => .binary
  | .close code reason => .close (closePayload code reason)
  | .hangup => .broken resetReason

/-- Whether the server's side of the connection is gone after a step. -/
def ServerStep.isLast : ServerStep → Bool
  | .close .. | .hangup => true
  | _ => false

/-- A request of a rehearsal with the tag under which its fate is recorded. -/
structure Submission where
  tag : String
  request : Request

/-- What a rehearsal records of the client's handlers. -/
inductive Entry where
  | handshake
  | failed (failure : Failure)
  | reply (tag : String) (data : Json)
  | lost (tag : String)
  | event (tag printer : String) (data : Json)
  | disconnect (tag : String) (cause : Failure)
  | login (tag : String)
  | sent (tag : String) (result : Except Failure Unit)

/-- What a step of a rehearsal comes to. -/
inductive Result where
  | unit (result : Except Failure Unit)
  | flag (value : Bool)
  | endpoint (endpoint : Endpoint)
  /-- The server has no open connection. -/
  | noPeer
  /-- The client is gone. -/
  | gone

/-- What the server saw and what the handlers did in one step. -/
structure Report where
  result : Option Result
  /-- Whether a connection is up. -/
  isOpen : Bool
  /-- How many handshakes succeeded so far. -/
  connections : Nat
  /-- The handshakes that were answered in this step. -/
  answered : List Outcome
  /-- The texts that the server received in this step. -/
  wire : List String
  log : List Entry

/-- A scripted server, and what it saw in the present step. -/
structure Server where
  network : Network
  /-- The answers to the handshakes to come. -/
  outcomes : List Outcome
  connections : Nat
  lastId : Nat
  answered : List Outcome
  wire : List String

namespace Server

/-- A server that has seen nothing yet. -/
def start (network : Network) (outcomes : List Outcome) : Server :=
  ⟨network, outcomes, 0, 1, [], []⟩

/-- The server at the beginning of a step. -/
def fresh (s : Server) : Server := { s with answered := [], wire := [] }

/-- The server after it received a request. -/
def receive (s : Server) (callbackId : Nat) (request : Request) : Server :=
  { s with lastId := callbackId, wire := s.wire ++ [request.encode callbackId] }

/-- How an attempt to connect to the endpoint ends now, if it does, and the server after it. -/
def decide? (s : Server) (e : Endpoint) : Option (Except Failure Unit × Server) :=
  match s.network with
  | .unreachable reason => some (.error (e.unreachable reason), s)
  | .scripted =>
    match e.socketUrl, s.outcomes with
    | .error fault, _ => some (.error (.invalidUrl fault), s)
    | .ok _, [] => none
    | .ok _, outcome :: rest =>
      let connections := if outcome = .accept then s.connections + 1 else s.connections
      some (outcome.decision,
        { s with outcomes := rest, connections, answered := s.answered ++ [outcome] })

end Server

end PrintClient.Rehearsal
