import PrintClient.CommandLine.Program
import PrintClient.Rehearsal.OfSession

/-!
# Rehearsals of a command

A command talks to a scripted server that accepts one connection, answers the login and then one
request after the other, and sends events to a command that watches them. Where nothing else can
happen the clock moves on to the next time that somebody waits for.

* `CommandScript`: what the server does;
* `converse`: what the session of a command comes to, and what the server received.
-/

namespace PrintClient.Rehearsal

/-- What the server of a command does. -/
structure CommandScript where
  network : Network
  /-- The answer to the first handshake; without one it has to wait. -/
  outcome : Option Outcome
  login : ServerStep
  /-- The answers to the requests after the login; later ones are answered with nothing. -/
  replies : List ServerStep
  /-- The texts that are sent to a command that watches events. -/
  frames : List String

/-- A rehearsal with what is left of the script, and the number of requests that were answered. -/
structure CommandRehearsal where
  session : SessionRehearsal
  script : CommandScript
  answered : Nat

namespace CommandRehearsal

/-- The session of a command, told apart by one handler of failures. -/
def newSession (r : CommandLine.Resolved) : Session SessionHandler :=
  Session.Setup.session ⟨r.endpoint, r.session, [], [.disconnect ""], []⟩

/-- A rehearsal whose session has done what it can before the clock moves on. -/
def start (script : CommandScript) (r : CommandLine.Resolved) : CommandRehearsal :=
  let session := SessionRehearsal.start (newSession r) (.start script.network script.outcome.toList)
  { session := session.settled, script, answered := 0 }

/-- The rehearsal after a step of the server. -/
def serve (r : CommandRehearsal) (step : ServerStep) : CommandRehearsal :=
  { r with session := (r.session.begin (.peer step)).1.settled }

/-- The step with which the server answers the request that it received last, if it has not yet. -/
def answer? (r : CommandRehearsal) : Option CommandRehearsal :=
  if r.session.isOpen && r.answered < r.session.server.wire.length then
    let r' := { r with answered := r.answered + 1 }
    if r.answered = 0 then some (r'.serve r.script.login)
    else
      match r.script.replies with
      | step :: replies => some ({ r' with script := { r.script with replies } }.serve step)
      | [] => some (r'.serve (.respond none .null))
  else none

/-- The times that connections wait for. -/
def deadlines (w : Session.World SessionHandler) : List Nat :=
  w.session.reconnectAt.toList ++ w.links.filterMap fun entry =>
    match entry.2.connection.phase with
    | .talking t => t.pending.map Connection.Pending.deadline
    | _ => none

/-- The next time after the present that somebody waits for, at the latest `limit`. -/
def nextTime (w : Session.World SessionHandler) (limit : Nat) : Nat :=
  ((deadlines w).filter fun t => w.clock < t).foldl min limit

/-- The rehearsal after the clock has moved on. -/
def wait (r : CommandRehearsal) (limit : Nat) : CommandRehearsal :=
  let w := r.session.world
  { r with session := (r.session.begin (.advance (nextTime w limit - w.clock))).1.settled }

/-- The first failure that the session has told of. -/
def firstFailure? (r : CommandRehearsal) : Option Failure :=
  r.session.log.findSome? fun
    | .disconnect _ cause => some cause
    | _ => none

/-- Waits for the first login, in at most `fuel` steps. -/
def awaitLogin (resolved : CommandLine.Resolved) (patience : Nat) : Nat → CommandRehearsal →
    CommandRehearsal × Except CommandLine.Problem Unit
  | 0, r => (r, .error (.timeout patience))
  | fuel + 1, r =>
    if r.session.world.session.state = .connected then (r, .ok ())
    else
      match r.firstFailure? with
      | some failure => (r, .error (CommandLine.loginProblem resolved failure))
      | none =>
        match r.answer? with
        | some r => awaitLogin resolved patience fuel r
        | none =>
          if patience * 1000 ≤ r.session.world.clock then (r, .error (.timeout patience))
          else awaitLogin resolved patience fuel (r.wait (patience * 1000))

/-- Waits for the result of the only call, in at most `fuel` steps. -/
def awaitCall : Nat → CommandRehearsal → CommandRehearsal × Except Failure Json
  | 0, r => (r, .error .disconnected)
  | fuel + 1, r =>
    match r.session.finished with
    | (_, result) :: _ => (r, result)
    | [] =>
      match r.answer? with
      | some r => awaitCall fuel r
      | none => awaitCall fuel (r.wait (r.session.world.clock + 1000))

/-- More steps than a command has to wait. -/
def patienceLimit : Nat := 10000

/-- Asks for the response to a request. -/
def ask (r : CommandRehearsal) (request : Request) :
    CommandRehearsal × Except CommandLine.Problem (List Json) :=
  let session := r.session.beginCall "" (.action (.raw request))
  let (r, result) := awaitCall patienceLimit { r with session := session.settled }
  (r, (result.map fun value => [value]).mapError CommandLine.Problem.ofFailure)

/-- The events that were delivered to the handlers of a watching command. -/
def delivered (log : List Entry) : List Json :=
  log.filterMap fun
    | .event name printer data => some (CommandLine.eventValue ⟨name, printer, data⟩)
    | _ => none

/-- Watches events while the server sends its texts. -/
def watch (r : CommandRehearsal) (events : List String) : CommandRehearsal × List Json :=
  let session := events.foldl (fun s name => (s.beginClient (.subscribe name name)).1) r.session
  let r := { r with session := session.settled }
  let r := r.script.frames.foldl (fun r text => r.serve (.text text)) r
  (r, delivered r.session.log)

/-- Does what a command asks of its session. -/
def grant (r : CommandRehearsal) :
    CommandLine.Wish → CommandRehearsal × Except CommandLine.Problem (List Json)
  | .ask (.error p) => (r, .error p)
  | .ask (.ok request) => r.ask request
  | .watch events =>
    let (r, values) := r.watch events
    (r, .ok values)

end CommandRehearsal

/-- What the session of a command comes to, and the texts that the server received. -/
def converse (script : CommandScript) (resolved : CommandLine.Resolved) (patience : Nat)
    (wish : CommandLine.Wish) : Except CommandLine.Problem (List Json) × List String :=
  let (r, login) := CommandRehearsal.awaitLogin resolved patience CommandRehearsal.patienceLimit
    (.start script resolved)
  match login with
  | .error p => (.error p, r.session.server.wire)
  | .ok () =>
    let (r, result) := r.grant wish
    (result, r.session.server.wire)

end PrintClient.Rehearsal
