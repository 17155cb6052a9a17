import PrintClient.Connection.Run
import PrintClient.Rehearsal.Server

/-!
# Rehearsals of a connection

A script of steps of the client and the server, each followed by everything that can happen before
the clock moves on.

* `ConnectionStep`, `ConnectionRehearsal.play`: one step, and what it comes to;
* `ConnectionRehearsal.perform`: a whole script.
-/

namespace PrintClient.Rehearsal

/-- A handler of a response: the tag that is recorded, and requests to be sent one after the other
from inside it. -/
structure ReplyHandler where
  tag : String
  followUps : List Submission

/-- A step of the script. -/
inductive ConnectionStep where
  | connect
  | send (submission : Submission) (followUps : List Submission)
  | subscribe (event tag : String)
  | close
  /-- The client gives its connection up for good. -/
  | drop
  | server (outcomes : List Outcome)
  | peer (step : ServerStep)
  | advance (milliseconds : Nat)

/-- What a step comes to; `busy` is unknown once the connection was given up. -/
structure ConnectionReport where
  busy : Option Bool
  report : Report

/-- A connection in front of a scripted server. -/
structure ConnectionRehearsal where
  endpoint : Endpoint
  run : Connection.Run ReplyHandler String
  server : Server
  /-- Whether the server's side of the connection is up. -/
  hasPeer : Bool
  isDropped : Bool
  log : List Entry

namespace ConnectionRehearsal

/-- A rehearsal before its first step. -/
def start (endpoint : Endpoint) (timeout : Nat) (server : Server) : ConnectionRehearsal :=
  { endpoint, run := .start timeout, server, hasPeer := false, isDropped := false, log := [] }

/-- Whether both sides of the connection are up. -/
def isOpen (r : ConnectionRehearsal) : Bool := r.hasPeer && r.run.link.isUp

/-- The rehearsal after an act. -/
def act (r : ConnectionRehearsal) (a : Connection.Act ReplyHandler String) : ConnectionRehearsal :=
  { r with run := r.run.act a }

/-- The rehearsal with more recorded. -/
def note (r : ConnectionRehearsal) (e : Entry) : ConnectionRehearsal :=
  { r with log := r.log ++ [e] }

/-- Hands a request to the connection; a refused one is recorded as lost. -/
def send (r : ConnectionRehearsal) (s : Submission) (followUps : List Submission) :
    ConnectionRehearsal × Except Failure Unit :=
  let handler : ReplyHandler := ⟨s.tag, followUps⟩
  match r.run.link.connection.send s.request handler with
  | .ok _ => (r.act (.send s.request handler), .ok ())
  | .error failure => ((r.act (.send s.request handler)).note (.lost s.tag), .error failure)

/-- What the handler of a response does: it records the data, then sends what it has to send. -/
def reply (r : ConnectionRehearsal) (handler : ReplyHandler) (data : Json) : ConnectionRehearsal :=
  let r := r.note (.reply handler.tag data)
  match handler.followUps with
  | [] => r
  | s :: rest =>
    let (r, result) := r.send s rest
    r.note (.sent s.tag result)

/-- Records an effect of the connection. -/
def observe (r : ConnectionRehearsal) : Connection.Event ReplyHandler String → ConnectionRehearsal
  | .did .opened => { r with hasPeer := true }.note .handshake
  | .did (.wrote callbackId request _) => { r with server := r.server.receive callbackId request }
  | .did (.answered handler data) => r.reply handler data
  | .did (.dropped handler) => r.note (.lost handler.tag)
  | .did (.delivered tag printer data) => r.note (.event tag printer data)
  | .did (.failed failure) => r.note (.failed failure)
  | .did (.armed ..) | .did (.read _) | .accepted _ | .refused .. => r

/-- The connection's next step, or else an answer to its handshake. -/
def settleStep? (r : ConnectionRehearsal) : Option ConnectionRehearsal :=
  match r.run.step? with
  | some run =>
    let events := (run.trace.drop r.run.trace.length).map Prod.snd
    some (events.foldl observe { r with run })
  | none =>
    if r.run.link.isWaiting then
      (r.server.decide? r.endpoint).map fun (outcome, server) =>
        { r with server }.act (.offer outcome)
    else none

/-- Everything that can happen before the clock moves on, in at most `limit` steps. -/
def settle : Nat → ConnectionRehearsal → ConnectionRehearsal
  | 0, r => r
  | limit + 1, r =>
    match r.settleStep? with
    | some r => settle limit r
    | none => r

/-- More steps than a script has follow from one of its own. -/
def settleLimit : Nat := 100000

/-- What a step does by itself. -/
def begin (r : ConnectionRehearsal) : ConnectionStep → ConnectionRehearsal × Option Result
  | .server outcomes =>
    ({ r with server := { r.server with outcomes := r.server.outcomes ++ outcomes } }, none)
  | .peer step =>
    if r.isOpen then
      ({ r with hasPeer := !step.isLast }.act (.arrive (step.inbound r.server.lastId)), none)
    else (r, some .noPeer)
  | .advance milliseconds => (r.act (.elapse milliseconds), none)
  | step =>
    if r.isDropped then
      match step with
      | .send s _ => (r.note (.lost s.tag), some .gone)
      | _ => (r, some .gone)
    else
      match step with
      | .connect =>
        match r.run.link.connection.connect with
        | .ok _ => (r.act .connect, some (.unit (.ok ())))
        | .error failure => (r, some (.unit (.error failure)))
      | .send s followUps =>
        let (r, result) := r.send s followUps
        (r, some (.unit result))
      | .subscribe event tag => (r.act (.subscribe event tag), none)
      | .close => (r.act .close, none)
      | .drop => ({ r with isDropped := true }.act .close, none)
      | _ => (r, none)

/-- One step of the script, and what it comes to. -/
def play (r : ConnectionRehearsal) (step : ConnectionStep) :
    ConnectionRehearsal × ConnectionReport :=
  let (r, result) := { r with server := r.server.fresh, log := [] }.begin step
  let r := settle settleLimit r
  (r, { busy := if r.isDropped then none else some r.run.link.connection.busy
        report := { result, isOpen := r.isOpen, connections := r.server.connections
                    answered := r.server.answered, wire := r.server.wire, log := r.log } })

/-- A whole script, and what each of its steps comes to. -/
def perform (r : ConnectionRehearsal) : List ConnectionStep → List ConnectionReport
  | [] => []
  | step :: rest =>
    let (r, report) := r.play step
    report :: perform r rest

end ConnectionRehearsal

end PrintClient.Rehearsal
