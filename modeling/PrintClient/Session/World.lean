import PrintClient.Session.Basic

/-!
# Sessions and what surrounds them

A `World` holds a session, the time, the connections that it has made, the commands of callers and
the notices of connections that it has not seen yet, and all that has happened. The session takes
what concerns it one at a time: first the wish to end, then commands, then notices, then the time to
connect again. Notices of connections that are no longer held are passed over.

* `World.submit`, `subscribe`, `onDisconnect`, `onLogin`, `shutdown`, `clone`, `drop`: operations of
  callers;
* `World.step?`: what the session does next; `World.linkStep?`: what one of its connections does
  next;
* `Act`, `World.act`, `World.all`: one act, and a list of them;
* `World.run`: every run is a list of acts from the start of a session that was set up.
-/

namespace PrintClient.Session

/-- What a world records. -/
inductive Event (H : Type) where
  /-- A connection was sent on its way. -/
  | attempted (generation : Nat)
  /-- The published state was set. -/
  | entered (state : SessionState)
  /-- A caller's request was accepted into the channel. -/
  | accepted (request : Request) (handler : H)
  /-- A caller's request was taken into the queue. -/
  | taken (request : Request) (handler : H)
  /-- A caller's operation was refused, and its handler given up. -/
  | refused (handler : H)
  /-- The text of a request was handed to the transport under a number. -/
  | wrote (generation callbackId : Nat) (q : Queued H)
  /-- The transport has taken the text of a request, and the time for its response begins. -/
  | armed (generation callbackId : Nat)
  /-- A connection took up what its transport brought. -/
  | read (generation : Nat) (i : Inbound)
  | replied (handler : H) (data : Json)
  /-- The handler of a caller's request was given up without being called. -/
  | lost (handler : H)
  | notified (handler : H) (e : PushEvent)
  | disconnected (handler : H) (failure : Failure)
  | loggedIn (handler : H)
  /-- The next attempt was put off. -/
  | putOff (delay : Nat)
  deriving DecidableEq

/-- Whether a session has begun to work, and whether it still does. -/
inductive Stage where
  | starting
  | running
  | ended
  deriving DecidableEq, Repr

/-- The links that the connections of a session are. The handler of a response stands for whom it is
meant for, which its notice does not tell; that of an event is the name under which it is forwarded.
-/
abbrev SessionLink (H : Type) := Link (Reply H) String

/-- A session, the time, its connections by generation, the channels to it, and what happened so far
with its times. -/
structure World (H : Type) where
  clock : Nat
  stage : Stage
  /-- Whether a caller wants the session to end. -/
  cancelled : Bool
  /-- How many callers can still reach the session. -/
  handles : Nat
  session : Session H
  commands : List (Command H)
  notices : List (Nat × Notice)
  links : List (Nat × SessionLink H)
  trace : List (Nat × Event H)

namespace World

variable {H : Type}

/-- The world of a session that has done nothing yet, with one caller. -/
def start (session : Session H) : World H :=
  { clock := 0, stage := .starting, cancelled := false, handles := 1, session, commands := []
    notices := [], links := [], trace := [] }

/-- The world with more recorded. -/
def note (w : World H) (events : List (Event H)) : World H :=
  { w with trace := w.trace ++ events.map fun e => (w.clock, e) }

/-! ### Connections by generation -/

/-- The links with one of them replaced. -/
def storeLink (g : Nat) (l : SessionLink H) :
    List (Nat × SessionLink H) → List (Nat × SessionLink H)
  | [] => [(g, l)]
  | (g', l') :: rest => if g' = g then (g, l) :: rest else (g', l') :: storeLink g l rest

/-- The link of a generation. -/
def link? (w : World H) (g : Nat) : Option (SessionLink H) := w.links.lookup g

/-- The world with the link of a generation replaced. -/
def setLink (w : World H) (g : Nat) (l : SessionLink H) : World H :=
  { w with links := storeLink g l w.links }

/-- The world with the link of a generation changed, if there is one. -/
def updateLink (w : World H) (g : Nat) (f : SessionLink H → SessionLink H) : World H :=
  match w.link? g with
  | some l => w.setLink g (f l)
  | none => w

/-- Changes the connection of a generation. -/
def updateConnection (w : World H) (g : Nat)
    (f : Connection (Reply H) String → Connection (Reply H) String) : World H :=
  w.updateLink g fun l => { l with connection := f l.connection }

/-- Closes the connection that is held, and passes over all that it or an earlier one will still
tell. -/
def discard (w : World H) : World H :=
  let w := match w.session.held with
    | some g => w.updateConnection g Connection.close
    | none => w
  { w with session := { w.session with held := none, generation := w.session.generation + 1 } }

/-! ### What the session does -/

/-- Publishes a state. -/
def enter (w : World H) (state : SessionState) : World H :=
  { w with session := { w.session with state } }.note [.entered state]

/-- The connection of a new attempt: on its way, with a handler for each event that has been
subscribed to. -/
def freshConnection (s : Session H) : Connection (Reply H) String :=
  let c : Connection (Reply H) String := .new s.settings.requestTimeout
  { c with
    phase := .opening
    inbox := s.subscriptions.map fun entry => .subscribe entry.1 entry.1 }

/-- Sends a new connection on its way. -/
def connect (w : World H) : World H :=
  let g := w.session.generation + 1
  { w with
    session := { w.session with generation := g, held := some g }
    links := w.links ++ [(g, Link.new (freshConnection w.session))] }.enter .connecting
    |>.note [.attempted g]

/-- Hands the first request of the queue to the connection that is held, if it may go out now. -/
def advance (w : World H) : World H :=
  match w.session.inFlight, w.session.held, w.session.queue with
  | none, some g, head :: rest =>
    if w.session.maySend head then
      match w.link? g with
      | some l =>
        match l.connection.send head.request head.reply with
        | .ok c =>
          { w.setLink g { l with connection := c } with
            session := { w.session with queue := rest, inFlight := some head } }
        | .error _ => w
      | none => w
    else w
  | _, _, _ => w

/-- Gives up the request on its way. -/
def loseInFlight (w : World H) : World H :=
  { w with session := { w.session with inFlight := none } }.note
    ((callers w.session.inFlight.toList).map .lost)

/-- Takes the session's own request out of the queue. -/
def withdrawLogin (w : World H) : World H :=
  { w with session := { w.session with queue := w.session.queue.filter fun q => !q.isLogin } }

/-- Puts the next attempt off, the longer the more failures there were in a row. -/
def putOff (w : World H) : World H :=
  let delay := retryDelay w.session.settings.backoff w.session.failures
  { w with session := { w.session with
      failures := w.session.failures + 1
      reconnectAt := some (w.clock + delay) } }.note [.putOff delay]

/-- Tears the conversation down: the request on its way is lost, the queue stays, and the callers
are told. -/
def fail (w : World H) (failure : Failure) : World H :=
  let w := (w.discard.loseInFlight.withdrawLogin).enter .disconnected
  (w.note (w.session.onDisconnect.map fun h => .disconnected h failure)).putOff

/-- Asks the server to log the session in, before all that is queued. -/
def greet (w : World H) : World H :=
  let w := w.enter .awaitingLogin
  { w with session := { w.session with queue := w.session.loginEntry :: w.session.queue } }.advance

/-- The server has accepted the login. -/
def loggedIn (w : World H) : World H :=
  let w := { w with session := { w.session with failures := 0 } }.enter .connected
  w.note (w.session.onLogin.map .loggedIn)

/-- The response to the request on its way has come. -/
def complete (w : World H) (data : Json) : World H :=
  match w.session.inFlight with
  | none => w
  | some q =>
    let w := { w with session := { w.session with inFlight := none } }
    match q.reply with
    | .login =>
      match checkOk q.request.action data with
      | .ok () => w.loggedIn.advance
      | .error failure => w.fail failure
    | .caller handler => (w.note [.replied handler data]).advance

/-- Acts on a command; the first handler of an event is also told to the connection that is held. -/
def obey (w : World H) : Command H → World H
  | .submit request handler =>
    ({ w with session := w.session.enqueue request handler }.note [.taken request handler]).advance
  | .subscribe event handler =>
    let isFirst := (w.session.handlersOf event).isEmpty
    let w := { w with session := w.session.subscribe event handler }
    match w.session.held with
    | some g => if isFirst then w.updateConnection g fun c => c.subscribe event event else w
    | none => w
  | .onDisconnect handler =>
    { w with session := { w.session with onDisconnect := w.session.onDisconnect ++ [handler] } }
  | .onLogin handler =>
    { w with session := { w.session with onLogin := w.session.onLogin ++ [handler] } }

/-- Acts on a notice of the connection that is held. -/
def heed (w : World H) : Notice → World H
  | .handshaked => w.greet
  | .completed data => w.complete data
  | .failed failure => w.fail failure
  | .event e => w.note ((w.session.handlersOf e.name).map fun h => .notified h e)

/-- The handler of a submitted request. -/
def Command.handler? : Command H → Option H
  | .submit _ handler => some handler
  | _ => none

/-- Ends the session: the requests on their way, in the queue and in the channel are given up. -/
def stop (w : World H) : World H :=
  let w := w.discard.loseInFlight
  let w := { w with session := { w.session with queue := [], reconnectAt := none } }.note
    ((callers w.session.queue).map .lost)
  let w := (w.enter .disconnected).note ((w.commands.filterMap Command.handler?).map .lost)
  { w with stage := .ended, commands := [], notices := [] }

/-- Whether the time to connect again has come. -/
def isDue (w : World H) : Bool :=
  match w.session.reconnectAt with
  | some t => decide (t ≤ w.clock)
  | none => false

/-- The next step of a session at work. -/
def runStep? (w : World H) : Option (World H) :=
  if w.cancelled then some w.stop
  else
    match w.commands, w.notices with
    | command :: rest, _ => some ({ w with commands := rest }.obey command)
    | [], notices =>
      if w.handles = 0 then some w.stop
      else
        match notices with
        | (g, notice) :: rest =>
          let w := { w with notices := rest }
          some (if g = w.session.generation then w.heed notice else w)
        | [] =>
          if w.isDue then
            some { w with session := { w.session with reconnectAt := none } }.connect
          else none

/-- What the session does next; nothing if it has to wait. -/
def step? (w : World H) : Option (World H) :=
  match w.stage with
  | .starting => some { w with stage := .running }.connect
  | .running => w.runStep?
  | .ended => none

/-! ### What connections do -/

/-- What the effect of a connection tells its session. -/
def noticeOf : Connection.Effect (Reply H) String → Option Notice
  | .opened => some .handshaked
  | .answered _ data => some (.completed data)
  | .delivered name printer data => some (.event ⟨name, printer, data⟩)
  | .failed failure => some (.failed failure)
  | .wrote .. | .armed .. | .read _ | .dropped _ => none

/-- What the world records of the effect of a connection. -/
def recordOf (g : Nat) : Connection.Effect (Reply H) String → Option (Event H)
  | .wrote callbackId request reply => some (.wrote g callbackId ⟨request, reply⟩)
  | .armed callbackId _ => some (.armed g callbackId)
  | .read i => some (.read g i)
  | _ => none

/-- The world after a connection did something; once the session has ended nobody hears its notices.
-/
def hear (w : World H) (g : Nat) (effects : List (Connection.Effect (Reply H) String)) : World H :=
  let w := w.note (effects.filterMap (recordOf g))
  match w.stage with
  | .ended => w
  | _ => { w with notices := w.notices ++ (effects.filterMap noticeOf).map fun n => (g, n) }

/-- What the connection of a generation does next; nothing if it has to wait. -/
def linkStep? (w : World H) (g : Nat) : Option (World H) :=
  match w.link? g with
  | some l => (l.step? w.clock).map fun done => (w.setLink g done.1).hear g done.2
  | none => none

/-! ### What callers do -/

/-- Hands a command to the session; one that has ended takes none. -/
def command (w : World H) (c : Command H) : Except Failure (World H) :=
  match w.stage with
  | .ended => .error .sessionClosed
  | _ => .ok { w with commands := w.commands ++ [c] }

/-- Hands a command to the session, or records that it was refused. -/
def tryCommand (w : World H) (c : Command H) (handler : H) : World H :=
  match w.command c with
  | .ok w => w
  | .error _ => w.note [.refused handler]

/-- Submits a request, or records that it was refused. -/
def submit (w : World H) (request : Request) (handler : H) : World H :=
  match w.command (.submit request handler) with
  | .ok w => w.note [.accepted request handler]
  | .error _ => w.note [.refused handler]

end World

/-- One thing that happens in the world of a session. -/
inductive Act (H : Type) where
  | submit (request : Request) (handler : H)
  | subscribe (event : String) (handler : H)
  | onDisconnect (handler : H)
  | onLogin (handler : H)
  | shutdown
  /-- One more caller can reach the session. -/
  | clone
  /-- One caller less can reach the session. -/
  | drop
  | offer (generation : Nat) (outcome : Except Failure Unit)
  | arrive (generation : Nat) (i : Inbound)
  | breakWrites (generation : Nat) (reason : String)
  | stall (generation : Nat)
  | resume (generation : Nat)
  | elapse (milliseconds : Nat)
  /-- The session does what it does next. -/
  | step
  /-- A connection does what it does next. -/
  | linkStep (generation : Nat)

namespace World

variable {H : Type}

/-- The world after an act; an act that is not possible changes nothing but what is recorded. -/
def act (w : World H) : Act H → World H
  | .submit request handler => w.submit request handler
  | .subscribe event handler => w.tryCommand (.subscribe event handler) handler
  | .onDisconnect handler => w.tryCommand (.onDisconnect handler) handler
  | .onLogin handler => w.tryCommand (.onLogin handler) handler
  | .shutdown => { w with cancelled := true }
  | .clone => { w with handles := w.handles + 1 }
  | .drop => { w with handles := w.handles - 1 }
  | .offer g outcome => w.updateLink g fun l => l.offer outcome
  | .arrive g i => w.updateLink g fun l => l.arrive i
  | .breakWrites g reason => w.updateLink g fun l => l.breakWrites reason
  | .stall g => w.updateLink g Link.stall
  | .resume g => w.updateLink g Link.resume
  | .elapse milliseconds => { w with clock := w.clock + milliseconds }
  | .step => w.step?.getD w
  | .linkStep g => (w.linkStep? g).getD w

/-- The world after a list of acts. -/
def all (w : World H) (acts : List (Act H)) : World H := acts.foldl act w

/-- The world of a session with this setup, after a list of acts. -/
def run (setup : Setup H) (acts : List (Act H)) : World H := (start setup.session).all acts

end World

end PrintClient.Session
