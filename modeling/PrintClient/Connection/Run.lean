import PrintClient.Connection.Link

/-!
# Runs of a connection

A `Run` is a link, the time, and all that happened so far. An `Act` is one thing that its owner, its
transport, the clock or the connection itself does; every run is a list of acts from `Run.start`.

* `Run.act`, `Run.all`: one act, and a list of them;
* `Event`: what a run records.
-/

namespace PrintClient.Connection

/-- What a run records. -/
inductive Event (R E : Type) where
  | did (effect : Effect R E)
  /-- A request was accepted from the owner. -/
  | accepted (handler : R)
  /-- A request was refused, and its handler given up. -/
  | refused (handler : R) (failure : Failure)
  deriving DecidableEq

/-- One thing that happens in a run. -/
inductive Act (R E : Type) where
  | connect
  | send (request : Request) (handler : R)
  | subscribe (event : String) (handler : E)
  | close
  | offer (outcome : Except Failure Unit)
  | arrive (i : Inbound)
  | breakWrites (reason : String)
  | stall
  | resume
  | elapse (milliseconds : Nat)
  /-- The connection does what it does next. -/
  | step

/-- A link, the time, and what happened so far with its times. -/
structure Run (R E : Type) where
  clock : Nat
  link : Link R E
  trace : List (Nat × Event R E)

namespace Run

variable {R E : Type}

/-- The run in which nothing has happened. -/
def start (timeout : Nat) : Run R E := ⟨0, .new (.new timeout), []⟩

/-- The run with something recorded. -/
def note (r : Run R E) (events : List (Event R E)) : Run R E :=
  { r with trace := r.trace ++ events.map fun e => (r.clock, e) }

/-- The run with its connection replaced. -/
def withConnection (r : Run R E) (c : Connection R E) : Run R E :=
  { r with link := { r.link with connection := c } }

/-- The run after the connection's next step, if it has one. -/
def step? (r : Run R E) : Option (Run R E) :=
  (r.link.step? r.clock).map fun done => { r with link := done.1 }.note (done.2.map .did)

/-- The run after an act; an act that is not possible changes nothing but what is recorded. -/
def act (r : Run R E) : Act R E → Run R E
  | .connect =>
    match r.link.connection.connect with
    | .ok c => r.withConnection c
    | .error _ => r
  | .send request handler =>
    match r.link.connection.send request handler with
    | .ok c => (r.withConnection c).note [.accepted handler]
    | .error failure => r.note [.refused handler failure]
  | .subscribe event handler => r.withConnection (r.link.connection.subscribe event handler)
  | .close => r.withConnection r.link.connection.close
  | .offer outcome => { r with link := r.link.offer outcome }
  | .arrive i => { r with link := r.link.arrive i }
  | .breakWrites reason => { r with link := r.link.breakWrites reason }
  | .stall => { r with link := r.link.stall }
  | .resume => { r with link := r.link.resume }
  | .elapse milliseconds => { r with clock := r.clock + milliseconds }
  | .step => r.step?.getD r

/-- The run after a list of acts. -/
def all (r : Run R E) (acts : List (Act R E)) : Run R E := acts.foldl act r

end Run

end PrintClient.Connection
