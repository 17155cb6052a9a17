import PrintClient.CommandLine.Problem
import PrintClient.CommandLine.Resolved
import PrintClient.Session.Calls

/-!
# Waiting for the first login

A command that needs a session goes on once the session is logged in. It does not wait for a second
attempt: the first failure ends the command, and so does the end of the time that it may wait. Of
several of these that it finds at once the command may take any.

* `loginProblem`: the problem that the first failure is;
* `LoginWait`, `LoginWait.act`: a waiting command beside its session, and one thing that happens to
  them.
-/

namespace PrintClient.CommandLine

/-- The handlers of a command. -/
inductive Handler where
  /-- Told of every failure; the command looks at the first. -/
  | failures
  | response
  /-- Told of the events with a name. -/
  | events (name : String)
  deriving DecidableEq

/-- The first failure that a session has told of. -/
def firstFailure? (w : Session.World Handler) : Option Failure :=
  w.trace.findSome? fun e =>
    match e.2 with
    | .disconnected _ failure => some failure
    | _ => none

/-- The problem that the failure of the first attempt is: a refused login, or no connection. -/
def loginProblem (r : Resolved) (failure : Failure) : Problem :=
  if failure.kind = .notOk then .authFailed r.profile
  else .connectionFailed r.endpoint.server failure.message

/-- The session of a command before its first attempt. -/
def newSession (r : Resolved) : Session Handler :=
  Session.Setup.session ⟨r.endpoint, r.session, [], [.failures], []⟩

/-- What a waiting command can find. -/
inductive Sign where
  | connected
  | failure
  | timeout
  deriving DecidableEq, Repr

/-- A command that waits for the first login of its session, until a time in milliseconds. -/
structure LoginWait where
  resolved : Resolved
  /-- How many seconds it may wait. -/
  patience : Nat
  world : Session.World Handler
  /-- How the wait ended. -/
  ending : Option (Except Problem Unit)

namespace LoginWait

/-- A wait that begins with its session. -/
def start (resolved : Resolved) (patience : Nat) : LoginWait :=
  { resolved, patience, world := .start (newSession resolved), ending := none }

/-- Whether the time is over. -/
def isOver (l : LoginWait) : Bool := decide (l.patience * 1000 ≤ l.world.clock)

/-- What the command finds when it looks for a sign. -/
def find? (l : LoginWait) : Sign → Option (Except Problem Unit)
  | .connected => l.world.connected?.map fun found => found.mapError .ofFailure
  | .failure => (firstFailure? l.world).map fun failure => .error (loginProblem l.resolved failure)
  | .timeout => if l.isOver then some (.error (.timeout l.patience)) else none

/-- Whether a sign makes the command shut its session down. -/
def endsSession : Sign → Bool
  | .connected => false
  | .failure | .timeout => true

/-- The wait after the command has looked for a sign; a wait that has ended looks for none. -/
def look (l : LoginWait) (sign : Sign) : LoginWait :=
  match l.ending, l.find? sign with
  | none, some ending =>
    { l with
      ending := some ending
      world := if endsSession sign then l.world.act .shutdown else l.world }
  | _, _ => l

end LoginWait

/-- One thing that happens while a command waits. -/
inductive LoginAct where
  | world (act : Session.Act Handler)
  | look (sign : Sign)

namespace LoginWait

/-- The wait after one thing has happened. -/
def act (l : LoginWait) : LoginAct → LoginWait
  | .world a => { l with world := l.world.act a }
  | .look sign => l.look sign

/-- The wait after a list of things has happened. -/
def all (l : LoginWait) (acts : List LoginAct) : LoginWait := acts.foldl act l

end LoginWait

end PrintClient.CommandLine
