import PrintClient.Rehearsal.Server
import PrintClient.Session.Calls

/-!
# Rehearsals of a session

A script of steps of the callers and the server, each followed by everything that can happen before
the clock moves on. Callers may await what they ask for; such a call keeps the session reachable
until it has its result.

* `SessionStep`, `SessionRehearsal.play`: one step, and what it comes to;
* `SessionRehearsal.perform`: a whole script.
-/

namespace PrintClient.Rehearsal

/-- A handler in a rehearsal of a session. -/
inductive SessionHandler where
  | reply (tag : String)
  /-- A call that awaits the response, by its number. -/
  | call (number : Nat)
  | event (tag : String)
  | disconnect (tag : String)
  /-- A handler of logins, which may submit a request. -/
  | login (tag : String) (submit : Option (String × Request))
  deriving DecidableEq

/-- What a call awaits. -/
inductive Awaited where
  | action (action : Action)
  | login

/-- A call that has no result yet. -/
structure OpenCall where
  number : Nat
  tag : String
  awaited : Awaited

/-- A step of the script. -/
inductive SessionStep where
  | submit (submission : Submission)
  | call (tag : String) (awaited : Awaited)
  | subscribe (event tag : String)
  | onDisconnect (tag : String)
  | onLogin (tag : String) (submit : Option Submission)
  | isConnected
  | endpoint
  | shutdown
  /-- The script gives the session up. -/
  | drop
  | server (outcomes : List Outcome)
  | peer (step : ServerStep)
  | advance (milliseconds : Nat)

/-- What a step comes to: the state of the session, and the calls that got a result. -/
structure SessionReport where
  state : SessionState
  finished : List (String × Except Failure Json)
  report : Report

/-- A session in front of a scripted server. -/
structure SessionRehearsal where
  world : Session.World SessionHandler
  server : Server
  /-- The generation of the connection whose server side is up. -/
  peer : Option Nat
  isDropped : Bool
  calls : List OpenCall
  /-- How many calls were made so far. -/
  callCount : Nat
  finished : List (String × Except Failure Json)
  log : List Entry

namespace SessionRehearsal

/-- A rehearsal before its first step. -/
def start (session : Session SessionHandler) (server : Server) : SessionRehearsal :=
  { world := .start session, server, peer := none, isDropped := false, calls := [], callCount := 0
    finished := [], log := [] }

/-- Whether both sides of a connection are up. -/
def isOpen (r : SessionRehearsal) : Bool :=
  match r.peer.bind r.world.link? with
  | some l => l.isUp
  | none => false

/-- The rehearsal after an act. -/
def act (r : SessionRehearsal) (a : Session.Act SessionHandler) : SessionRehearsal :=
  { r with world := r.world.act a }

/-- The rehearsal with more recorded. -/
def note (r : SessionRehearsal) (e : Entry) : SessionRehearsal := { r with log := r.log ++ [e] }

/-- Records an event, and lets a handler of logins submit its request. -/
def observe (r : SessionRehearsal) : Session.Event SessionHandler → SessionRehearsal
  | .wrote _ callbackId q => { r with server := r.server.receive callbackId q.request }
  | .replied (.reply tag) data => r.note (.reply tag data)
  | .lost (.reply tag) => r.note (.lost tag)
  | .refused (.reply tag) => r.note (.lost tag)
  | .notified (.event tag) e => r.note (.event tag e.printer e.data)
  | .disconnected (.disconnect tag) cause => r.note (.disconnect tag cause)
  | .loggedIn (.login tag submit) =>
    let r := r.note (.login tag)
    match submit with
    | some (tag, request) => r.act (.submit request (.reply tag))
    | none => r
  | _ => r

/-- The rehearsal in another state of its world, with all that happened on the way recorded. -/
def moveTo (r : SessionRehearsal) (world : Session.World SessionHandler) : SessionRehearsal :=
  ((world.trace.drop r.world.trace.length).map Prod.snd).foldl observe { r with world }

/-- The first of the connections that can do something does it. -/
def linkStep? (r : SessionRehearsal) : Option SessionRehearsal :=
  (r.world.links.findSome? fun entry => r.world.linkStep? entry.1).map r.moveTo

/-- The server answers the handshake of the connection that is on its way, if its script goes on. -/
def handshakeStep? (r : SessionRehearsal) : Option SessionRehearsal :=
  match r.world.links.find? fun entry => entry.2.isWaiting with
  | none => none
  | some (g, _) =>
    (r.server.decide? r.world.session.endpoint).map fun (outcome, server) =>
      let peer := match outcome with
        | .ok () => some g
        | .error _ => r.peer
      { r with server, peer }.act (.offer g outcome)

/-- What a call finds now. -/
def result? (r : SessionRehearsal) (c : OpenCall) : Option (Except Failure Json) :=
  match c.awaited with
  | .login => r.world.connected?.map fun found => found.map fun _ => .null
  | .action a => (r.world.outcome? (.call c.number)).map fun found => found.bind a.answer

/-- The first of the calls that have a result gets it. -/
def callStep? (r : SessionRehearsal) : Option SessionRehearsal :=
  (r.calls.findSome? fun c => (r.result? c).map fun found => (c, found)).map fun (c, found) =>
    { r with
      calls := r.calls.filter fun other => other.number ≠ c.number
      finished := r.finished ++ [(c.tag, found)] }.act .drop

/-- The next thing that can happen: the session goes first, then its connections, the server and the
calls. -/
def settleStep? (r : SessionRehearsal) : Option SessionRehearsal :=
  match r.world.step? with
  | some world => some (r.moveTo world)
  | none => (r.linkStep?.or r.handshakeStep?).or r.callStep?

/-- Everything that can happen before the clock moves on, in at most `limit` steps. -/
def settle : Nat → SessionRehearsal → SessionRehearsal
  | 0, r => r
  | limit + 1, r =>
    match r.settleStep? with
    | some r => settle limit r
    | none => r

/-- More steps than a script has follow from one of its own. -/
def settleLimit : Nat := 10000

/-- Everything that can happen before the clock moves on. -/
def settled (r : SessionRehearsal) : SessionRehearsal := settle settleLimit r

/-- Hands a command to the session and tells how it was taken. -/
def command (r : SessionRehearsal) (a : Session.Act SessionHandler) :
    SessionRehearsal × Option Result :=
  let r := r.moveTo (r.world.act a)
  (r, some (.unit (if r.world.stage = .ended then .error .sessionClosed else .ok ())))

/-- A call begins; it makes its request at once. -/
def beginCall (r : SessionRehearsal) (tag : String) (awaited : Awaited) : SessionRehearsal :=
  let call : OpenCall := ⟨r.callCount, tag, awaited⟩
  let r := { r with calls := r.calls ++ [call], callCount := r.callCount + 1 }.act .clone
  match awaited with
  | .login => r
  | .action a => r.act (.submit a.request (.call call.number))

/-- What a step of the callers does by itself. -/
def beginClient (r : SessionRehearsal) : SessionStep → SessionRehearsal × Option Result
  | .submit s => r.command (.submit s.request (.reply s.tag))
  | .call tag awaited => (r.beginCall tag awaited, none)
  | .subscribe event tag => r.command (.subscribe event (.event tag))
  | .onDisconnect tag => r.command (.onDisconnect (.disconnect tag))
  | .onLogin tag submit =>
    let r := if submit.isSome then r.act .clone else r
    r.command (.onLogin (.login tag (submit.map fun s => (s.tag, s.request))))
  | .isConnected => (r, some (.flag (r.world.session.state = .connected)))
  | .endpoint => (r, some (.endpoint r.world.session.endpoint))
  | .shutdown => (r.act .shutdown, none)
  | .drop => ({ r with isDropped := true }.act .drop, none)
  | _ => (r, none)

/-- What a step does by itself. -/
def begin (r : SessionRehearsal) : SessionStep → SessionRehearsal × Option Result
  | .server outcomes =>
    ({ r with server := { r.server with outcomes := r.server.outcomes ++ outcomes } }, none)
  | .peer step =>
    match r.isOpen, r.peer with
    | true, some g =>
      ({ r with peer := if step.isLast then none else r.peer }.act
        (.arrive g (step.inbound r.server.lastId)), none)
    | _, _ => (r, some .noPeer)
  | .advance milliseconds => (r.act (.elapse milliseconds), none)
  | step => if r.isDropped then (r, some .gone) else r.beginClient step

/-- The report of a step after which the rehearsal is in this state. -/
def report (r : SessionRehearsal) (result : Option Result) : SessionReport :=
  { state := r.world.session.state, finished := r.finished
    report := { result, isOpen := r.isOpen, connections := r.server.connections
                answered := r.server.answered, wire := r.server.wire, log := r.log } }

/-- The rehearsal at the beginning of a step. -/
def fresh (r : SessionRehearsal) : SessionRehearsal :=
  { r with server := r.server.fresh, finished := [], log := [] }

/-- One step of the script, and what it comes to. -/
def play (r : SessionRehearsal) (step : SessionStep) : SessionRehearsal × SessionReport :=
  let (r, result) := r.fresh.begin step
  (r.settled, r.settled.report result)

/-- The steps of a script, and what each of them comes to. -/
def steps (r : SessionRehearsal) : List SessionStep → List SessionReport
  | [] => []
  | step :: rest =>
    let (r, report) := r.play step
    report :: steps r rest

/-- A whole script: what starting the session comes to, and then each of the steps. -/
def perform (r : SessionRehearsal) (script : List SessionStep) : List SessionReport :=
  r.settled.report none :: r.settled.steps script

end SessionRehearsal

end PrintClient.Rehearsal
