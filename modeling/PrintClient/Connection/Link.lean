import PrintClient.Connection.Basic
import PrintClient.Endpoint

/-!
# Connections and their transport

A `Link` is a connection together with what its transport has in store for it: how the way to the
server ended, what arrived and was not read, and whether something can be written. What it does next
is determined by the time: the owner's wish to end comes first, then commands, then what arrived,
then the deadline of the request that awaits its response. A connection that writes goes on only
when the transport has taken all of the text, or has failed.

* `Link.offer`, `Link.arrive`, `Link.breakWrites`, `Link.stall`, `Link.resume`: what the transport
  does;
* `Link.step?`: what the connection does next, if there is anything to do;
* `Endpoint.admit`, `Endpoint.unreachable`: how the way to an endpoint goes on with a transport, and
  how it fails without one.
-/

namespace PrintClient

/-- A connection and what its transport has in store for it. -/
structure Link (R E : Type) where
  connection : Connection R E
  /-- How the way to the server ended. -/
  outcome : Option (Except Failure Unit)
  unread : List Inbound
  /-- Why nothing can be written any more. -/
  writeFault : Option String
  /-- Whether the transport takes nothing for now, as the other side reads nothing. -/
  stalled : Bool

namespace Link

variable {R E : Type}

/-- A connection whose transport has done nothing yet. -/
def new (connection : Connection R E) : Link R E := ⟨connection, none, [], none, false⟩

/-! ### The transport -/

/-- The way to the server ends; only the first end counts. -/
def offer (l : Link R E) (outcome : Except Failure Unit) : Link R E :=
  { l with outcome := l.outcome.or (some outcome) }

/-- Something arrives. -/
def arrive (l : Link R E) (i : Inbound) : Link R E := { l with unread := l.unread ++ [i] }

/-- From now on nothing can be written. -/
def breakWrites (l : Link R E) (reason : String) : Link R E := { l with writeFault := some reason }

/-- The transport takes nothing for now. -/
def stall (l : Link R E) : Link R E := { l with stalled := true }

/-- The transport takes what is to be written again. -/
def resume (l : Link R E) : Link R E := { l with stalled := false }

/-! ### The next step -/

/-- The link after its connection did something. -/
def after (l : Link R E) (done : Connection R E × List (Connection.Effect R E)) :
    Link R E × List (Connection.Effect R E) :=
  ({ l with connection := done.1 }, done.2)

/-- Whether the deadline of the request that awaits its response has come. -/
def isDue (t : Connection.Talk R E) (now : Nat) : Bool :=
  match t.pending with
  | some p => decide (p.deadline ≤ now)
  | none => false

/-- Takes up something that the transport brought, `rest` being what stays unread. -/
def read (l : Link R E) (t : Connection.Talk R E) (i : Inbound) (rest : List Inbound) :
    Link R E × List (Connection.Effect R E) :=
  let done := l.connection.receive t i
  { l with unread := rest }.after (done.1, .read i :: done.2)

/-- The next step of an open connection. -/
def talkStep? (l : Link R E) (t : Connection.Talk R E) (now : Nat) :
    Option (Link R E × List (Connection.Effect R E)) :=
  match l.connection.inbox, l.unread with
  | _ :: _, _ => some (l.after (l.connection.takeCommand t l.writeFault))
  | [], i :: rest => some (l.read t i rest)
  | [], [] => if isDue t now then some (l.after (l.connection.expire t)) else none

/-- The next step of a connection on its way to the server. -/
def openStep? (l : Link R E) : Option (Link R E × List (Connection.Effect R E)) :=
  match l.outcome with
  | some (.ok ()) => some (l.after l.connection.opened)
  | some (.error failure) => some (l.after (l.connection.fail failure))
  | none => none

/-- The next step of a connection that writes. Neither the owner's wish to end nor what arrives nor
the time matters to it. -/
def writeStep? (l : Link R E) (t : Connection.Talk R E) (handler : R) (now : Nat) :
    Option (Link R E × List (Connection.Effect R E)) :=
  match l.writeFault with
  | some reason => some (l.after (l.connection.breakOff reason))
  | none => if l.stalled then none else some (l.after (l.connection.arm t handler now))

/-- What the connection does next, and its effects; nothing if it has to wait. -/
def step? (l : Link R E) (now : Nat) : Option (Link R E × List (Connection.Effect R E)) :=
  match l.connection.phase with
  | .idle => none
  | .opening => if l.connection.cancelled then some (l.after l.connection.stop) else l.openStep?
  | .talking t =>
    if l.connection.cancelled then some (l.after l.connection.stop) else l.talkStep? t now
  | .writing t handler => l.writeStep? t handler now
  | .closing => some (l.after l.connection.finish)
  | .ended => none

/-- Whether the connection waits for the way to the server to end. -/
def isWaiting (l : Link R E) : Bool :=
  match l.connection.phase with
  | .opening => !l.connection.cancelled && l.outcome.isNone
  | _ => false

/-- Whether the connection is open, and neither writes nor is about to end. -/
def isUp (l : Link R E) : Bool :=
  match l.connection.phase with
  | .talking _ => !l.connection.cancelled
  | _ => false

end Link

/-- How the way to the server goes on once a transport is there: the address of the socket must make
a URL, then the server decides. -/
def Endpoint.admit (e : Endpoint) (decision : Except Failure Unit) : Except Failure Unit :=
  match e.socketUrl with
  | .ok _ => decision
  | .error fault => .error (.invalidUrl fault)

/-- The failure of an endpoint that no transport leads to. -/
def Endpoint.unreachable (e : Endpoint) (reason : String) : Failure := .connect e.host e.port reason

end PrintClient
