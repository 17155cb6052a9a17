import PrintClient.Frame
import PrintClient.Request

/-!
# Connections

A connection carries one request at a time. Its owner hands it commands through an inbox; the
connection takes them one by one, writes requests under increasing numbers, and ties each response
to the request with the same number. While it writes it attends to nothing else. It is used once:
when it has failed or was closed it ends.

The owner's operations are `connect`, `send`, `subscribe` and `close`. What the connection does by
itself are `opened`, `takeCommand`, `arm`, `breakOff`, `receive`, `expire`, `fail`, `stop` and
`finish`; each of them tells its `Effect`s in order.
-/

namespace PrintClient

/-- What the transport of an open connection brings. -/
inductive Inbound where
  | text (frame : String)
  | binary
  /-- A frame that the transport deals with by itself. -/
  | control
  /-- A close frame with its code and reason, if it has them. -/
  | close (payload : Option (Nat × String))
  /-- The transport failed. -/
  | broken (reason : String)
  /-- Nothing more follows. -/
  | ended
  deriving DecidableEq

namespace Connection

/-- What the owner of a connection hands to it; `R` are handlers of responses and `E` handlers of
events. -/
inductive Command (R E : Type) where
  | send (request : Request) (handler : R)
  | subscribe (event : String) (handler : E)
  deriving DecidableEq

/-- A request that was written and awaits its response. -/
structure Pending (R : Type) where
  callbackId : Nat
  handler : R
  deadline : Nat
  deriving DecidableEq

/-- What an open connection keeps: the number of the last request, the request that awaits its
response, and the handler of each event. -/
structure Talk (R E : Type) where
  lastId : Nat
  pending : Option (Pending R)
  handlers : List (String × E)
  deriving DecidableEq

/-- The phases in the life of a connection. -/
inductive Phase (R E : Type) where
  /-- Not told yet to connect. -/
  | idle
  /-- On the way to the server. -/
  | opening
  | talking (talk : Talk R E)
  /-- Waits until the transport has taken the text of the last request. -/
  | writing (talk : Talk R E) (handler : R)
  /-- Done with its work, but not yet gone. -/
  | closing
  | ended
  deriving DecidableEq

/-- What a connection does that can be seen from outside. -/
inductive Effect (R E : Type) where
  /-- The owner is told that the connection is open. -/
  | opened
  /-- The text of a request was handed to the transport under a number. -/
  | wrote (callbackId : Nat) (request : Request) (handler : R)
  /-- The transport has taken the text of a request, and the time for its response begins. -/
  | armed (callbackId : Nat) (handler : R)
  /-- What the transport brought was taken up. -/
  | read (i : Inbound)
  | answered (handler : R) (data : Json)
  /-- The handler of a request is given up without being called. -/
  | dropped (handler : R)
  | delivered (handler : E) (printer : String) (data : Json)
  /-- The owner is told of a failure. -/
  | failed (failure : Failure)
  deriving DecidableEq

end Connection

/-- A connection with its inbox. `busy` tells that a request was accepted and has no outcome yet,
`cancelled` that the owner wants it closed. -/
structure Connection (R E : Type) where
  timeout : Nat
  phase : Connection.Phase R E
  inbox : List (Connection.Command R E)
  busy : Bool
  cancelled : Bool
  deriving DecidableEq

namespace Connection

variable {R E : Type}

/-- A connection that nothing was done with. -/
def new (timeout : Nat) : Connection R E := ⟨timeout, .idle, [], false, false⟩

/-- What an open connection keeps at first. -/
def Talk.start : Talk R E := ⟨0, none, []⟩

/-! ### Operations of the owner -/

/-- Sends the connection on its way; this can be done once. -/
def connect (c : Connection R E) : Except Failure (Connection R E) :=
  match c.phase with
  | .idle => .ok { c with phase := .opening }
  | _ => .error .alreadyConnected

/-- Hands over a request, unless another one has no outcome yet. -/
def send (c : Connection R E) (request : Request) (handler : R) : Except Failure (Connection R E) :=
  match c.phase with
  | .idle => .error .notConnected
  | phase =>
    if c.busy then .error .requestInFlight
    else
      match phase with
      | .ended => .error .notConnected
      | _ => .ok { c with busy := true, inbox := c.inbox ++ [.send request handler] }

/-- Hands over the handler of an event, which replaces an earlier one; a connection that has ended
takes none. -/
def subscribe (c : Connection R E) (event : String) (handler : E) : Connection R E :=
  match c.phase with
  | .ended => c
  | _ => { c with inbox := c.inbox ++ [.subscribe event handler] }

/-- Asks the connection to end without a report. -/
def close (c : Connection R E) : Connection R E := { c with cancelled := true }

/-! ### Handlers that wait -/

/-- The handler of a command that sends a request. -/
def Command.handler? : Command R E → Option R
  | .send _ handler => some handler
  | .subscribe .. => none

/-- The handlers of the requests in the inbox. -/
def waiting (c : Connection R E) : List R := c.inbox.filterMap Command.handler?

/-- The handler of the request that awaits its response. -/
def Talk.awaited (t : Talk R E) : List R := (t.pending.map Pending.handler).toList

/-- The handler of the request that is being written or awaits its response. -/
def awaited (c : Connection R E) : List R :=
  match c.phase with
  | .talking t => t.awaited
  | .writing _ handler => [handler]
  | _ => []

/-! ### The end -/

/-- Ends the connection; what is left in the inbox is given up. -/
def finish (c : Connection R E) : Connection R E × List (Effect R E) :=
  ({ c with phase := .ended, inbox := [] }, c.waiting.map .dropped)

/-- Fails: the request that is on its way is given up, then the owner is told. -/
def fail (c : Connection R E) (failure : Failure) : Connection R E × List (Effect R E) :=
  ({ c with phase := .closing, busy := false }, c.awaited.map .dropped ++ [.failed failure])

/-- Follows the owner's wish to end. On its way to the server the connection ends at once; while it
writes it does not attend to the wish. -/
def stop (c : Connection R E) : Connection R E × List (Effect R E) :=
  match c.phase with
  | .opening => c.finish
  | .talking t => ({ c with phase := .closing, busy := false }, t.awaited.map .dropped)
  | _ => (c, [])

/-! ### Talking -/

/-- The server has let the connection in. -/
def opened (c : Connection R E) : Connection R E × List (Effect R E) :=
  ({ c with phase := .talking .start }, [.opened])

/-- Hands the text of a request to the transport under the next number; `fault` is why nothing can
be written. While another request awaits its response the request is given up. -/
def write (c : Connection R E) (t : Talk R E) (fault : Option String) (request : Request)
    (handler : R) : Connection R E × List (Effect R E) :=
  match t.pending with
  | some _ => (c, [.dropped handler])
  | none =>
    match fault with
    | some reason =>
      let (c, effects) := c.fail (.webSocket reason)
      (c, .dropped handler :: effects)
    | none =>
      let id := t.lastId + 1
      ({ c with phase := .writing { t with lastId := id } handler }, [.wrote id request handler])

/-- The transport has taken the text of the last request, which now awaits its response; `now` is
the time. -/
def arm (c : Connection R E) (t : Talk R E) (handler : R) (now : Nat) :
    Connection R E × List (Effect R E) :=
  ({ c with
    phase := .talking { t with pending := some ⟨t.lastId, handler, now + c.timeout⟩ } },
    [.armed t.lastId handler])

/-- The transport fails before it has taken the text of the last request. An owner that wants the
connection closed is not told. -/
def breakOff (c : Connection R E) (reason : String) : Connection R E × List (Effect R E) :=
  if c.cancelled then ({ c with phase := .closing, busy := false }, c.awaited.map .dropped)
  else c.fail (.webSocket reason)

/-- Takes the first command out of the inbox. -/
def takeCommand (c : Connection R E) (t : Talk R E) (fault : Option String) :
    Connection R E × List (Effect R E) :=
  match c.inbox with
  | [] => (c, [])
  | .send request handler :: rest => { c with inbox := rest }.write t fault request handler
  | .subscribe event handler :: rest =>
    let handlers := (event, handler) :: t.handlers.filter fun h => h.1 ≠ event
    ({ c with inbox := rest, phase := .talking { t with handlers } }, [])

/-- The call of the handler of an event, if there is one. -/
def Talk.delivery? (t : Talk R E) (e : PushEvent) : Option (Effect R E) :=
  (t.handlers.lookup e.name).map fun handler => .delivered handler e.printer e.data

/-- Hands data to the request that awaits them; the connection is free again before the handler is
called. -/
def resolve (c : Connection R E) (t : Talk R E) (callbackId : Nat) (data : Json) :
    Connection R E × List (Effect R E) :=
  match t.pending with
  | some p =>
    if p.callbackId = callbackId then
      ({ c with phase := .talking { t with pending := none }, busy := false },
        [.answered p.handler data])
    else (c, [])
  | none => (c, [])

/-- Acts on a frame. -/
def dispatch (c : Connection R E) (t : Talk R E) : Frame → Connection R E × List (Effect R E)
  | .response callbackId data => c.resolve t callbackId data
  | .events batch => (c, batch.filterMap t.delivery?)
  | .ignored => (c, [])

/-- Why a connection was closed by the other side. -/
def closeFailure : Option (Nat × String) → Failure
  | some (code, reason) => .connectionClosed (some code) reason
  | none => .connectionClosed none "close frame without payload"

/-- Acts on what the transport brings. -/
def receive (c : Connection R E) (t : Talk R E) : Inbound → Connection R E × List (Effect R E)
  | .text frame =>
    match Frame.parse frame with
    | .ok frame => c.dispatch t frame
    | .error violation => c.fail (.violation violation)
  | .binary => (c, [])
  | .control => (c, [])
  | .close payload => c.fail (closeFailure payload)
  | .broken reason => c.fail (.webSocket reason)
  | .ended => c.fail (.connectionClosed none "stream ended")

/-- The longest time that a report can tell. -/
def longestReport : Nat := UInt64.size - 1

/-- Tells that the response to a request did not come in time, and gives the request up. -/
def expire (c : Connection R E) (t : Talk R E) : Connection R E × List (Effect R E) :=
  match t.pending with
  | some p =>
    ({ c with phase := .talking { t with pending := none }, busy := false },
      [.failed (.timeout p.callbackId (min c.timeout longestReport)), .dropped p.handler])
  | none => (c, [])

end Connection

end PrintClient
