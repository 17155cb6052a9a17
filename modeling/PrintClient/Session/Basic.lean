import PrintClient.Connection.Link
import PrintClient.Session.Settings

/-!
# Sessions

A session keeps a conversation with the server going: it queues requests, logs in on every new
connection before anything else is sent, and connects again after a failure. `H` are the handlers
that callers hand to it.

* `SessionState`: the state that a session publishes;
* `Queued`, `Session`: what a session keeps;
* `Session.subscribe`, `Session.enqueue`: what callers add to it;
* `Setup`: what is in place before its first connection.
-/

namespace PrintClient

/-- Where a session stands. -/
inductive SessionState where
  | disconnected
  | connecting
  | awaitingLogin
  | connected
  deriving DecidableEq, Repr

/-- The state in words. -/
def SessionState.describe : SessionState → String
  | .disconnected => "disconnected"
  | .connecting => "connecting"
  | .awaitingLogin => "awaiting login"
  | .connected => "connected"

namespace Session

/-- Who gets the response to a request: the session itself, which logs in, or a caller. -/
inductive Reply (H : Type) where
  | login
  | caller (handler : H)
  deriving DecidableEq

/-- A request of a session, and who gets the response. -/
structure Queued (H : Type) where
  request : Request
  reply : Reply H
  deriving DecidableEq

/-- What callers ask of a session. -/
inductive Command (H : Type) where
  | submit (request : Request) (handler : H)
  | subscribe (event : String) (handler : H)
  | onDisconnect (handler : H)
  | onLogin (handler : H)
  deriving DecidableEq

/-- What a connection tells its session. -/
inductive Notice where
  | handshaked
  | completed (data : Json)
  | failed (failure : Failure)
  | event (e : PushEvent)
  deriving DecidableEq

end Session

/-- What a session keeps. Connections are told apart by the generation that they were made for; at
most one of them is held. -/
structure Session (H : Type) where
  endpoint : Endpoint
  settings : SessionSettings
  state : SessionState
  /-- The generation of the connection that is held. -/
  held : Option Nat
  generation : Nat
  /-- The failures in a row since the last login. -/
  failures : Nat
  queue : List (Session.Queued H)
  inFlight : Option (Session.Queued H)
  /-- When to connect again. -/
  reconnectAt : Option Nat
  subscriptions : List (String × List H)
  onDisconnect : List H
  onLogin : List H
  deriving DecidableEq

namespace Session

variable {H : Type}

/-- Whether a request is the session's own. -/
def Queued.isLogin (q : Queued H) : Bool :=
  match q.reply with
  | .login => true
  | .caller _ => false

/-- The caller's handler of a request. -/
def Queued.handler? (q : Queued H) : Option H :=
  match q.reply with
  | .login => none
  | .caller handler => some handler

/-- The handlers of callers' requests, in order. -/
def callers (queue : List (Queued H)) : List H := queue.filterMap Queued.handler?

/-- A session before its first connection. -/
def new (endpoint : Endpoint) (settings : SessionSettings) : Session H :=
  { endpoint, settings, state := .disconnected, held := none, generation := 0, failures := 0
    queue := [], inFlight := none, reconnectAt := none, subscriptions := [], onDisconnect := []
    onLogin := [] }

/-- The handlers of an event in the order of their registration. -/
def handlersOf (s : Session H) (event : String) : List H := (s.subscriptions.lookup event).getD []

/-- A handler added behind those of the same event. -/
def addHandler (event : String) (handler : H) : List (String × List H) → List (String × List H)
  | [] => [(event, [handler])]
  | (name, handlers) :: rest =>
    if name = event then (name, handlers ++ [handler]) :: rest
    else (name, handlers) :: addHandler event handler rest

/-- The session with one more handler of an event. -/
def subscribe (s : Session H) (event : String) (handler : H) : Session H :=
  { s with subscriptions := addHandler event handler s.subscriptions }

/-- What a session is set up with before its first connection. -/
structure Setup (H : Type) where
  endpoint : Endpoint
  settings : SessionSettings
  /-- Handlers of events, in the order of their registration. -/
  subscriptions : List (String × H)
  onDisconnect : List H
  onLogin : List H

/-- The session of a setup. -/
def Setup.session (s : Setup H) : Session H :=
  let session := s.subscriptions.foldl (fun session p => session.subscribe p.1 p.2)
    (new s.endpoint s.settings)
  { session with onDisconnect := s.onDisconnect, onLogin := s.onLogin }

/-- The session with one more request of a caller in its queue. -/
def enqueue (s : Session H) (request : Request) (handler : H) : Session H :=
  { s with queue := s.queue ++ [⟨request, .caller handler⟩] }

/-- The session's own request, which goes out before all others. -/
def loginEntry (s : Session H) : Queued H := ⟨.login s.endpoint.apiKey, .login⟩

/-- Whether a request may go out in the present state: the login at once, the others after it. -/
def maySend (s : Session H) (q : Queued H) : Bool := q.isLogin || s.state = .connected

end Session

end PrintClient
