import Mathlib.Data.List.Forall2
import PrintClient.Proofs.Session.Login
import PrintClient.Session.Calls

/-!
# The API key goes into the login and nowhere else

`withKey` replaces the API key in all that a session and its connections hold: in the endpoint, and
in the data of the login wherever it waits, is on its way, or was written. Whatever is done
afterwards is done in the same way. So two runs that differ in the key only differ in the key of
their logins.

* `Queued.withKey`, `Connection.withKey`, `World.withKey`: another key in all that is kept;
* `step?_withKey`: connections do the same with every key;
* `act_withKey`, `run_withKey`: sessions do the same with every key;
* `SameButKey`, `encode_login`: the login under two keys;
* `key_only_in_login`: all that can be seen of two runs.
-/

namespace PrintClient

open Session (Reply)

variable {H : Type} (key : String)

/-! ### Another key -/

/-- The same endpoint with another key. -/
def Endpoint.withKey (e : Endpoint) : Endpoint := { e with apiKey := key }

theorem Endpoint.socketUrl_withKey (e : Endpoint) : (e.withKey key).socketUrl = e.socketUrl := by
  have hhost : (e.withKey key).hostText = e.hostText := rfl
  have hport : (e.withKey key).port = e.port := rfl
  rw [socketUrl, socketUrl, baseUrl, baseUrl, hhost, hport]

/-- A request with another key, if it is the login. -/
def Request.withKey (r : Request) : Reply H → Request
  | .login => r.entry "apikey" (.string key)
  | .caller _ => r

theorem Request.withKey_login (old : String) :
    (Request.login old).withKey key (.login : Reply H) = .login key := by
  rw [Request.withKey, login, login, entry, entry, entry, named, Dict.insert, Dict.insert,
    Dict.insert, if_pos rfl]

namespace Connection

/-- A command with another key, if it sends the login. -/
def Command.withKey : Command (Reply H) String → Command (Reply H) String
  | .send request reply => .send (request.withKey key reply) reply
  | .subscribe event name => .subscribe event name

/-- A connection with another key. -/
def withKey (c : Connection (Reply H) String) : Connection (Reply H) String :=
  { c with inbox := c.inbox.map (Command.withKey key) }

/-- An effect with another key, if it writes the login. -/
def Effect.withKey : Effect (Reply H) String → Effect (Reply H) String
  | .wrote id request reply => .wrote id (request.withKey key reply) reply
  | e => e

/-- A connection with another key, and its effects. -/
def doneWithKey (done : Connection (Reply H) String × List (Effect (Reply H) String)) :
    Connection (Reply H) String × List (Effect (Reply H) String) :=
  (done.1.withKey key, done.2.map (Effect.withKey key))

/-! ### Connections -/

section Connections

variable (c : Connection (Reply H) String) (t : Talk (Reply H) String)

theorem waiting_withKey : (c.withKey key).waiting = c.waiting := by
  rw [waiting, waiting, withKey, List.filterMap_map]
  congr 1
  funext command
  cases command <;> rfl

theorem map_dropped_withKey (replies : List (Reply H)) :
    (replies.map .dropped).map (Effect.withKey key) =
      replies.map (Effect.dropped (E := String)) := by
  rw [List.map_map]
  rfl

theorem send_withKey (request : Request) (reply : Reply H) :
    (c.withKey key).send (request.withKey key reply) reply =
      (c.send request reply).map (withKey key) := by
  obtain ⟨timeout, phase, inbox, busy, cancelled⟩ := c
  cases phase <;> cases busy <;> simp [send, withKey, Except.map, Command.withKey]

theorem subscribe_withKey (event name : String) :
    (c.subscribe event name).withKey key = (c.withKey key).subscribe event name := by
  obtain ⟨timeout, phase, inbox, busy, cancelled⟩ := c
  cases phase <;> simp [subscribe, withKey, Command.withKey]

theorem finish_withKey : (c.withKey key).finish = doneWithKey key c.finish := by
  rw [finish, waiting_withKey, finish, doneWithKey, map_dropped_withKey]
  rfl

theorem fail_withKey (failure : Failure) :
    (c.withKey key).fail failure = doneWithKey key (c.fail failure) := by
  rw [fail, fail, doneWithKey, List.map_append, map_dropped_withKey]
  rfl

theorem stop_withKey : (c.withKey key).stop = doneWithKey key c.stop := by
  obtain ⟨timeout, phase, inbox, busy, cancelled⟩ := c
  cases phase with
  | opening => exact finish_withKey key ⟨timeout, .opening, inbox, busy, cancelled⟩
  | talking t =>
    simp only [stop, doneWithKey, map_dropped_withKey]
    rfl
  | idle | writing | closing | ended => rfl

theorem write_withKey (fault : Option String) (request : Request) (reply : Reply H) :
    (c.withKey key).write t fault (request.withKey key reply) reply =
      doneWithKey key (c.write t fault request reply) := by
  unfold write
  cases t.pending with
  | some p => rfl
  | none =>
    cases fault with
    | some reason =>
      dsimp only
      rw [fail_withKey]
      rfl
    | none => rfl

theorem takeCommand_withKey (fault : Option String) :
    (c.withKey key).takeCommand t fault = doneWithKey key (c.takeCommand t fault) := by
  obtain ⟨timeout, phase, inbox, busy, cancelled⟩ := c
  cases inbox with
  | nil => rfl
  | cons command rest =>
    cases command with
    | send request reply =>
      exact write_withKey key ⟨timeout, phase, rest, busy, cancelled⟩ t fault request reply
    | subscribe event name => rfl

theorem breakOff_withKey (reason : String) :
    (c.withKey key).breakOff reason = doneWithKey key (c.breakOff reason) := by
  have hcancelled : (c.withKey key).cancelled = c.cancelled := rfl
  unfold breakOff
  rw [hcancelled]
  cases c.cancelled with
  | true =>
    simp only [if_true, doneWithKey, map_dropped_withKey]
    rfl
  | false => exact fail_withKey key c _

theorem resolve_withKey (id : Nat) (data : Json) :
    (c.withKey key).resolve t id data = doneWithKey key (c.resolve t id data) := by
  unfold resolve
  cases t.pending with
  | none => rfl
  | some p =>
    dsimp only
    split <;> rfl

theorem dispatch_withKey (frame : Frame) :
    (c.withKey key).dispatch t frame = doneWithKey key (c.dispatch t frame) := by
  cases frame with
  | response id data => exact resolve_withKey key c t id data
  | events batch =>
    have hquiet (e : PushEvent) : (t.delivery? e).map (Effect.withKey key) = t.delivery? e := by
      rw [Talk.delivery?, Option.map_map]
      rfl
    simp only [dispatch, doneWithKey, List.map_filterMap, hquiet]
  | ignored => rfl

theorem receive_withKey (i : Inbound) :
    (c.withKey key).receive t i = doneWithKey key (c.receive t i) := by
  cases i with
  | text frame =>
    simp only [receive]
    cases Frame.parse frame with
    | ok frame => exact dispatch_withKey key c t frame
    | error violation => exact fail_withKey key c _
  | binary | control => rfl
  | close payload => exact fail_withKey key c _
  | broken reason => exact fail_withKey key c _
  | ended => exact fail_withKey key c _

theorem expire_withKey : (c.withKey key).expire t = doneWithKey key (c.expire t) := by
  unfold expire
  cases t.pending <;> rfl

end Connections

end Connection

namespace Link

/-- A link with another key. -/
def withKey (l : Link (Reply H) String) : Link (Reply H) String :=
  { l with connection := l.connection.withKey key }

/-- A link with another key, and the effects of its connection. -/
def doneWithKey (done : Link (Reply H) String × List (Connection.Effect (Reply H) String)) :
    Link (Reply H) String × List (Connection.Effect (Reply H) String) :=
  (done.1.withKey key, done.2.map (Connection.Effect.withKey key))

section Steps

variable (l : Link (Reply H) String)

theorem talkStep?_withKey (t : Connection.Talk (Reply H) String) (now : Nat) :
    (l.withKey key).talkStep? t now = (l.talkStep? t now).map (doneWithKey key) := by
  have hinbox : (l.withKey key).connection.inbox =
      l.connection.inbox.map (Connection.Command.withKey key) := rfl
  have hunread : (l.withKey key).unread = l.unread := rfl
  unfold talkStep?
  rw [hinbox, hunread]
  cases l.connection.inbox with
  | cons command rest =>
    exact congrArg (some ·) (congrArg (l.withKey key).after
      (Connection.takeCommand_withKey key l.connection t l.writeFault))
  | nil =>
    cases l.unread with
    | cons i rest =>
      have hreceive := Connection.receive_withKey key l.connection t i
      simp only [List.map_nil, read, Option.map_some]
      rw [show (l.withKey key).connection = l.connection.withKey key from rfl, hreceive]
      rfl
    | nil =>
      simp only [List.map_nil]
      by_cases hdue : isDue t now = true
      · rw [if_pos hdue, if_pos hdue]
        exact congrArg (some ·) (congrArg (l.withKey key).after
          (Connection.expire_withKey key l.connection t))
      · rw [if_neg hdue, if_neg hdue]
        rfl

theorem writeStep?_withKey (t : Connection.Talk (Reply H) String) (reply : Reply H) (now : Nat) :
    (l.withKey key).writeStep? t reply now =
      (l.writeStep? t reply now).map (doneWithKey key) := by
  have hfault : (l.withKey key).writeFault = l.writeFault := rfl
  have hstalled : (l.withKey key).stalled = l.stalled := rfl
  unfold writeStep?
  rw [hfault, hstalled]
  cases l.writeFault with
  | some reason =>
    exact congrArg (some ·) (congrArg (l.withKey key).after
      (Connection.breakOff_withKey key l.connection reason))
  | none => cases l.stalled <;> rfl

/-- **A connection does the same with every key.** -/
theorem step?_withKey (now : Nat) :
    (l.withKey key).step? now = (l.step? now).map (doneWithKey key) := by
  have hstop : some ((l.withKey key).after (l.withKey key).connection.stop) =
      (some (l.after l.connection.stop)).map (doneWithKey key) :=
    congrArg (some ·) (congrArg (l.withKey key).after (Connection.stop_withKey key l.connection))
  have hphase : (l.withKey key).connection.phase = l.connection.phase := rfl
  have hcancelled : (l.withKey key).connection.cancelled = l.connection.cancelled := rfl
  unfold step?
  rw [hphase, hcancelled]
  cases l.connection.phase with
  | idle | ended => rfl
  | opening =>
    cases l.connection.cancelled with
    | true => exact hstop
    | false =>
      have houtcome : (l.withKey key).outcome = l.outcome := rfl
      simp only [Bool.false_eq_true, if_false, openStep?, houtcome]
      cases l.outcome with
      | none => rfl
      | some outcome =>
        cases outcome with
        | ok => rfl
        | error failure =>
          exact congrArg (some ·) (congrArg (l.withKey key).after
            (Connection.fail_withKey key l.connection failure))
  | talking t =>
    cases l.connection.cancelled with
    | true => exact hstop
    | false => exact talkStep?_withKey key l t now
  | writing t reply => exact writeStep?_withKey key l t reply now
  | closing =>
    exact congrArg (some ·) (congrArg (l.withKey key).after
      (Connection.finish_withKey key l.connection))

end Steps

end Link

namespace Session

/-! ### Sessions -/

/-- A request in the queue with another key, if it is the login. -/
def Queued.withKey (q : Queued H) : Queued H := ⟨q.request.withKey key q.reply, q.reply⟩

/-- What is recorded with another key, if it is that the login was written. -/
def Event.withKey : Event H → Event H
  | .wrote g id q => .wrote g id (q.withKey key)
  | e => e

/-- A session with another key. -/
def withKey (s : Session H) : Session H :=
  { s with
    endpoint := s.endpoint.withKey key
    queue := s.queue.map (Queued.withKey key)
    inFlight := s.inFlight.map (Queued.withKey key) }

/-- A setup with another key. -/
def Setup.withKey (setup : Setup H) : Setup H :=
  { setup with endpoint := setup.endpoint.withKey key }

section Sessions

variable (s : Session H)

theorem loginEntry_withKey : (s.withKey key).loginEntry = s.loginEntry.withKey key :=
  congrArg (Queued.mk · .login) (Request.withKey_login key s.endpoint.apiKey).symm

theorem callers_map_withKey (queue : List (Queued H)) :
    callers (queue.map (Queued.withKey key)) = callers queue := by
  rw [callers, List.filterMap_map]
  rfl

theorem callers_inFlight_withKey :
    callers (s.withKey key).inFlight.toList = callers s.inFlight.toList := by
  cases h : s.inFlight with
  | none => simp [withKey, h]
  | some q => simpa [withKey, h] using callers_map_withKey key [q]

theorem filter_isLogin_withKey (queue : List (Queued H)) :
    (queue.map (Queued.withKey key)).filter (fun q => !q.isLogin) =
      (queue.filter fun q => !q.isLogin).map (Queued.withKey key) := by
  rw [List.filter_map]
  rfl

theorem session_withKey (setup : Setup H) :
    (setup.withKey key).session = setup.session.withKey key := by
  -- subscriptions do not look at the endpoint
  suffices h : ∀ (registered : List (String × H)) (s : Session H),
      registered.foldl (fun s p => s.subscribe p.1 p.2) (s.withKey key) =
        (registered.foldl (fun s p => s.subscribe p.1 p.2) s).withKey key by
    exact congrArg (fun s : Session H =>
      { s with onDisconnect := setup.onDisconnect, onLogin := setup.onLogin })
      (h setup.subscriptions (new setup.endpoint setup.settings))
  intro registered
  induction registered with
  | nil => exact fun _ => rfl
  | cons p registered ih => exact fun s => ih (s.subscribe p.1 p.2)

end Sessions

namespace World

/-- A world with another key. -/
def withKey (w : World H) : World H :=
  { w with
    session := w.session.withKey key
    links := w.links.map fun p => (p.1, p.2.withKey key)
    trace := w.trace.map fun p => (p.1, p.2.withKey key) }

section Worlds

variable (w : World H)

/-! ### What is recorded -/

/-- Events that write nothing are the same with every key. -/
theorem map_withKey {α : Type} {f : α → Event H} (hf : ∀ a, (f a).withKey key = f a)
    (as : List α) : (as.map f).map (Event.withKey key) = as.map f := by
  rw [List.map_map]
  exact List.map_congr_left fun a _ => hf a

theorem note_withKey (events : List (Event H)) :
    (w.withKey key).note (events.map (Event.withKey key)) = (w.note events).withKey key := by
  simp [note, withKey]

/-- The same is recorded if it is no write. -/
theorem note_map_withKey {α : Type} {f : α → Event H} (hf : ∀ a, (f a).withKey key = f a)
    (as : List α) : (w.withKey key).note (as.map f) = (w.note (as.map f)).withKey key := by
  rw [← note_withKey, map_withKey key hf]

/-! ### Connections of a session -/

theorem link?_withKey (g : Nat) :
    (w.withKey key).link? g = (w.link? g).map (Link.withKey key) := by
  unfold link? withKey
  dsimp only
  induction w.links with
  | nil => rfl
  | cons p links ih =>
    rw [List.map_cons, List.lookup_cons, List.lookup_cons]
    cases g == p.1 with
    | true => rfl
    | false => exact ih

theorem storeLink_withKey (g : Nat) (l : SessionLink H) (links : List (Nat × SessionLink H)) :
    storeLink g (l.withKey key) (links.map fun p => (p.1, p.2.withKey key)) =
      (storeLink g l links).map fun p => (p.1, p.2.withKey key) := by
  induction links with
  | nil => rfl
  | cons p links ih =>
    rw [List.map_cons, storeLink, storeLink]
    split
    · rfl
    · rw [ih]
      rfl

theorem setLink_withKey (g : Nat) (l : SessionLink H) :
    (w.withKey key).setLink g (l.withKey key) = (w.setLink g l).withKey key := by
  unfold setLink
  rw [show (w.withKey key).links = w.links.map fun p => (p.1, p.2.withKey key) from rfl,
    storeLink_withKey]
  rfl

theorem updateLink_withKey (g : Nat) {f : SessionLink H → SessionLink H}
    (hf : ∀ l, f (l.withKey key) = (f l).withKey key) :
    (w.withKey key).updateLink g f = (w.updateLink g f).withKey key := by
  unfold updateLink
  rw [link?_withKey]
  cases w.link? g with
  | none => rfl
  | some l =>
    show (w.withKey key).setLink g (f (l.withKey key)) = (w.setLink g (f l)).withKey key
    rw [hf, setLink_withKey]

theorem updateConnection_withKey (g : Nat)
    {f : Connection (Reply H) String → Connection (Reply H) String}
    (hf : ∀ c, f (c.withKey key) = (f c).withKey key) :
    (w.withKey key).updateConnection g f = (w.updateConnection g f).withKey key := by
  refine updateLink_withKey key w g fun l => ?_
  rw [show (l.withKey key).connection = l.connection.withKey key from rfl, hf]
  rfl

/-! ### What the session does -/

theorem advance_withKey : (w.withKey key).advance = w.advance.withKey key := by
  have hinFlight : (w.withKey key).session.inFlight =
      w.session.inFlight.map (Queued.withKey key) := rfl
  have hheld : (w.withKey key).session.held = w.session.held := rfl
  have hqueue : (w.withKey key).session.queue = w.session.queue.map (Queued.withKey key) := rfl
  unfold advance
  rw [hinFlight, hheld, hqueue]
  cases w.session.inFlight with
  | some q => rfl
  | none =>
    cases w.session.held with
    | none => rfl
    | some g =>
      cases w.session.queue with
      | nil => rfl
      | cons head rest =>
        have hmay : (w.withKey key).session.maySend (head.withKey key) = w.session.maySend head :=
          rfl
        simp only [Option.map_none, List.map_cons, hmay, link?_withKey]
        split
        · cases w.link? g with
          | none => rfl
          | some l =>
            have hsend : (l.withKey key).connection.send (head.withKey key).request
                (head.withKey key).reply =
                  (l.connection.send head.request head.reply).map (Connection.withKey key) :=
              Connection.send_withKey key l.connection head.request head.reply
            simp only [Option.map_some, hsend]
            cases l.connection.send head.request head.reply with
            | error failure => rfl
            | ok c =>
              have hset := setLink_withKey key w g { l with connection := c }
              exact congrArg (fun v : World H => { v with session :=
                { (w.withKey key).session with
                  queue := rest.map (Queued.withKey key)
                  inFlight := some (head.withKey key) } }) hset
        · rfl

theorem discard_withKey : (w.withKey key).discard = w.discard.withKey key := by
  have hheld : (w.withKey key).session.held = w.session.held := rfl
  unfold discard
  rw [hheld]
  cases w.session.held with
  | none => rfl
  | some g =>
    have hclose : (w.withKey key).updateConnection g Connection.close =
        (w.updateConnection g Connection.close).withKey key :=
      updateConnection_withKey key w g fun _ => rfl
    dsimp only
    rw [hclose]
    rfl

theorem enter_withKey (state : SessionState) :
    (w.withKey key).enter state = (w.enter state).withKey key :=
  note_withKey key { w with session := { w.session with state } } [.entered state]

theorem loseInFlight_withKey : (w.withKey key).loseInFlight = w.loseInFlight.withKey key := by
  unfold loseInFlight
  rw [show (w.withKey key).session = w.session.withKey key from rfl, callers_inFlight_withKey]
  exact note_map_withKey key { w with session := { w.session with inFlight := none } }
    (fun _ => rfl) _

theorem withdrawLogin_withKey : (w.withKey key).withdrawLogin = w.withdrawLogin.withKey key := by
  have hqueue : (w.withKey key).session.queue = w.session.queue.map (Queued.withKey key) := rfl
  unfold withdrawLogin
  rw [hqueue, filter_isLogin_withKey]
  rfl

theorem putOff_withKey : (w.withKey key).putOff = w.putOff.withKey key :=
  note_withKey key
    { w with session := { w.session with
      failures := w.session.failures + 1
      reconnectAt := some (w.clock + retryDelay w.session.settings.backoff w.session.failures) } }
    [.putOff (retryDelay w.session.settings.backoff w.session.failures)]

theorem fail_withKey (failure : Failure) :
    (w.withKey key).fail failure = (w.fail failure).withKey key := by
  unfold fail
  dsimp only
  rw [discard_withKey, loseInFlight_withKey, withdrawLogin_withKey, enter_withKey,
    ← putOff_withKey, ← note_map_withKey key _ fun _ => rfl]
  rfl

theorem greet_withKey : (w.withKey key).greet = w.greet.withKey key := by
  have hentry : ((w.withKey key).enter .awaitingLogin).session.loginEntry =
      (w.enter .awaitingLogin).session.loginEntry.withKey key :=
    loginEntry_withKey key (w.enter .awaitingLogin).session
  unfold greet
  dsimp only
  rw [hentry, enter_withKey, ← advance_withKey]
  rfl

theorem loggedIn_withKey : (w.withKey key).loggedIn = w.loggedIn.withKey key := by
  unfold loggedIn
  dsimp only
  rw [← note_map_withKey key _ fun _ => rfl, ← enter_withKey]
  rfl

theorem complete_withKey (data : Json) :
    (w.withKey key).complete data = (w.complete data).withKey key := by
  have hinFlight : (w.withKey key).session.inFlight =
      w.session.inFlight.map (Queued.withKey key) := rfl
  unfold complete
  rw [hinFlight]
  cases w.session.inFlight with
  | none => rfl
  | some q =>
    obtain ⟨request, reply⟩ := q
    cases reply with
    | login =>
      -- the action of the login is the same with every key
      have haction : (request.withKey key (.login : Reply H)).action = request.action := rfl
      simp only [Option.map_some, Queued.withKey, haction]
      cases checkOk request.action data with
      | ok =>
        dsimp only
        rw [← advance_withKey, ← loggedIn_withKey]
        rfl
      | error failure =>
        exact fail_withKey key { w with session := { w.session with inFlight := none } } failure
    | caller handler =>
      dsimp only [Option.map_some, Queued.withKey]
      rw [← advance_withKey, ← note_withKey]
      rfl

theorem obey_withKey (command : Command H) :
    (w.withKey key).obey command = (w.obey command).withKey key := by
  cases command with
  | submit request handler =>
    have hqueue : (w.session.withKey key).enqueue request handler =
        (w.session.enqueue request handler).withKey key := by
      simp [enqueue, Session.withKey, Queued.withKey, Request.withKey]
    unfold obey
    dsimp only
    rw [show (w.withKey key).session = w.session.withKey key from rfl, hqueue, ← advance_withKey,
      ← note_withKey]
    rfl
  | subscribe event handler =>
    have hheld : ((w.withKey key).session.subscribe event handler).held = w.session.held := rfl
    have hhandlers : (w.withKey key).session.handlersOf event = w.session.handlersOf event := rfl
    have hheld' : (w.session.subscribe event handler).held = w.session.held := rfl
    unfold obey
    dsimp only
    rw [hheld, hheld', hhandlers]
    cases w.session.held with
    | none => rfl
    | some g =>
      dsimp only
      split
      · exact updateConnection_withKey key { w with session := w.session.subscribe event handler } g
          fun c => (Connection.subscribe_withKey key c event event).symm
      · rfl
  | onDisconnect handler => rfl
  | onLogin handler => rfl

theorem heed_withKey (notice : Notice) :
    (w.withKey key).heed notice = (w.heed notice).withKey key := by
  cases notice with
  | handshaked => exact greet_withKey key w
  | completed data => exact complete_withKey key w data
  | failed failure => exact fail_withKey key w failure
  | event e => exact note_map_withKey key w (fun _ => rfl) (w.session.handlersOf e.name)

theorem freshConnection_withKey (s : Session H) :
    freshConnection (s.withKey key) = (freshConnection s).withKey key := by
  simp [freshConnection, Connection.withKey, Session.withKey, Connection.Command.withKey]

theorem connect_withKey : (w.withKey key).connect = w.connect.withKey key := by
  have hlink : Link.new (freshConnection (w.withKey key).session) =
      (Link.new (freshConnection w.session)).withKey key :=
    congrArg Link.new (freshConnection_withKey key w.session)
  rw [connect_eq, connect_eq, hlink, ← note_withKey]
  simp [withKey, Session.withKey, Event.withKey]

/-- Gives up what is queued. -/
def dropQueue (w : World H) : World H :=
  { w with session := { w.session with queue := [], reconnectAt := none } }.note
    ((callers w.session.queue).map .lost)

theorem stop_withKey : (w.withKey key).stop = w.stop.withKey key := by
  have hdrop (v : World H) : (v.withKey key).dropQueue = v.dropQueue.withKey key := by
    unfold dropQueue
    rw [show (v.withKey key).session = v.session.withKey key from rfl,
      show (v.session.withKey key).queue = v.session.queue.map (Queued.withKey key) from rfl,
      callers_map_withKey]
    exact note_map_withKey key
      { v with session := { v.session with queue := [], reconnectAt := none } } (fun _ => rfl) _
  have hcommands (v : World H) : (v.withKey key).commands = v.commands := rfl
  have hstop (v : World H) : v.stop =
      { ((v.discard.loseInFlight.dropQueue).enter .disconnected).note
          ((v.discard.loseInFlight.commands.filterMap Command.handler?).map .lost) with
        stage := .ended, commands := [], notices := [] } := rfl
  rw [hstop, hstop, discard_withKey, loseInFlight_withKey, hdrop, enter_withKey, hcommands,
    note_map_withKey key _ fun _ => rfl]
  rfl

/-- A notice is heeded or passed over. -/
theorem heed_ite_withKey (p : Nat × Notice) :
    (if p.1 = (w.withKey key).session.generation then (w.withKey key).heed p.2
      else w.withKey key) =
        (if p.1 = w.session.generation then w.heed p.2 else w).withKey key := by
  have hgeneration : (w.withKey key).session.generation = w.session.generation := rfl
  rw [hgeneration, heed_withKey]
  split <;> rfl

/-- The next attempt is made when its time has come. -/
theorem connect_ite_withKey :
    (if (w.withKey key).isDue then some ({ w.withKey key with
        session := { (w.withKey key).session with reconnectAt := none } }.connect) else none) =
      (if w.isDue then some ({ w with session := { w.session with reconnectAt := none } }.connect)
        else none).map (withKey key) := by
  have hdue : (w.withKey key).isDue = w.isDue := rfl
  rw [hdue]
  split
  · exact congrArg some
      (connect_withKey key { w with session := { w.session with reconnectAt := none } })
  · rfl

/-- What a session at work does next is the same with every key. -/
theorem runStep?_withKey : (w.withKey key).runStep? = w.runStep?.map (withKey key) := by
  obtain ⟨clock, stage, cancelled, handles, session, commands, notices, links, trace⟩ := w
  cases cancelled with
  | true =>
    exact congrArg some
      (stop_withKey key ⟨clock, stage, true, handles, session, commands, notices, links, trace⟩)
  | false =>
    cases commands with
    | cons command rest =>
      exact congrArg some (obey_withKey key
        ⟨clock, stage, false, handles, session, rest, notices, links, trace⟩ command)
    | nil =>
      cases handles with
      | zero =>
        exact congrArg some
          (stop_withKey key ⟨clock, stage, false, 0, session, [], notices, links, trace⟩)
      | succ n =>
        cases notices with
        | cons p rest =>
          exact congrArg some (heed_ite_withKey key
            ⟨clock, stage, false, n + 1, session, [], rest, links, trace⟩ p)
        | nil =>
          exact connect_ite_withKey key
            ⟨clock, stage, false, n + 1, session, [], [], links, trace⟩

theorem step?_withKey : (w.withKey key).step? = w.step?.map (withKey key) := by
  have hstage : (w.withKey key).stage = w.stage := rfl
  unfold step?
  rw [hstage]
  cases w.stage with
  | starting => exact congrArg some (connect_withKey key { w with stage := .running })
  | running => exact runStep?_withKey key w
  | ended => rfl

/-! ### What connections do -/

theorem hear_withKey (g : Nat) (effects : List (Connection.Effect (Reply H) String)) :
    (w.withKey key).hear g (effects.map (Connection.Effect.withKey key)) =
      (w.hear g effects).withKey key := by
  have hrecord : (effects.map (Connection.Effect.withKey key)).filterMap (recordOf g) =
      (effects.filterMap (recordOf g)).map (Event.withKey key) := by
    rw [List.filterMap_map, List.map_filterMap]
    congr 1
    funext e
    cases e <;> rfl
  have hnotice : (effects.map (Connection.Effect.withKey key)).filterMap noticeOf =
      effects.filterMap noticeOf := by
    rw [List.filterMap_map]
    congr 1
    funext e
    cases e <;> rfl
  unfold hear
  dsimp only
  rw [hrecord, hnotice, note_withKey]
  have hstage : ((w.note (effects.filterMap (recordOf g))).withKey key).stage = w.stage := rfl
  have hstage' : (w.note (effects.filterMap (recordOf g))).stage = w.stage := rfl
  rw [hstage, hstage']
  cases w.stage <;> rfl

theorem linkStep?_withKey (g : Nat) :
    (w.withKey key).linkStep? g = (w.linkStep? g).map (withKey key) := by
  have hclock : (w.withKey key).clock = w.clock := rfl
  unfold linkStep?
  rw [link?_withKey, hclock]
  cases w.link? g with
  | none => rfl
  | some l =>
    simp only [Option.map_some, Link.step?_withKey, Option.map_map]
    congr 1
    funext done
    exact (congrArg (fun v : World H => v.hear g _) (setLink_withKey key w g done.1)).trans
      (hear_withKey key (w.setLink g done.1) g done.2)

/-! ### Acts and runs -/

theorem tryCommand_withKey (command : Command H) (handler : H) :
    (w.withKey key).tryCommand command handler = (w.tryCommand command handler).withKey key := by
  have hstage : (w.withKey key).stage = w.stage := rfl
  unfold tryCommand World.command
  rw [hstage]
  cases w.stage with
  | ended => exact note_withKey key w [.refused handler]
  | starting | running => rfl

theorem submit_withKey (request : Request) (handler : H) :
    (w.withKey key).submit request handler = (w.submit request handler).withKey key := by
  obtain ⟨clock, stage, cancelled, handles, session, commands, notices, links, trace⟩ := w
  cases stage with
  | ended =>
    exact note_withKey key
      ⟨clock, .ended, cancelled, handles, session, commands, notices, links, trace⟩
      [.refused handler]
  | starting =>
    exact note_withKey key ⟨clock, .starting, cancelled, handles, session,
      commands ++ [.submit request handler], notices, links, trace⟩ [.accepted request handler]
  | running =>
    exact note_withKey key ⟨clock, .running, cancelled, handles, session,
      commands ++ [.submit request handler], notices, links, trace⟩ [.accepted request handler]

/-- **Whatever happens, happens with every key.** -/
theorem act_withKey (a : Act H) : (w.withKey key).act a = (w.act a).withKey key := by
  cases a with
  | submit request handler => exact submit_withKey key w request handler
  | subscribe event handler => exact tryCommand_withKey key w (.subscribe event handler) handler
  | onDisconnect handler => exact tryCommand_withKey key w (.onDisconnect handler) handler
  | onLogin handler => exact tryCommand_withKey key w (.onLogin handler) handler
  | offer g outcome | arrive g i | breakWrites g reason | stall g | resume g =>
    exact updateLink_withKey key w g fun _ => rfl
  | shutdown | clone | drop | elapse => rfl
  | step =>
    show (w.withKey key).step?.getD (w.withKey key) = (w.step?.getD w).withKey key
    rw [step?_withKey]
    cases w.step? <;> rfl
  | linkStep g =>
    show ((w.withKey key).linkStep? g).getD (w.withKey key) = ((w.linkStep? g).getD w).withKey key
    rw [linkStep?_withKey]
    cases w.linkStep? g <;> rfl

end Worlds

/-- **Every run is the run with another key, but for the key.** -/
theorem run_withKey (setup : Setup H) (acts : List (Act H)) :
    run (setup.withKey key) acts = (run setup acts).withKey key := by
  have hall (w : World H) : (w.withKey key).all acts = (w.all acts).withKey key := by
    induction acts generalizing w with
    | nil => rfl
    | cons a acts ih => exact (congrArg (all · acts) (act_withKey key w a)).trans (ih (w.act a))
  rw [run, session_withKey]
  exact hall (start setup.session)

/-! ### What can be seen of two runs -/

/-- Events of two runs with a key each: they are the same, or the login is written with either key.
-/
inductive SameButKey (key key' : String) : Event H → Event H → Prop
  | same (e : Event H) (h : ∀ g id q, e = .wrote g id q → q.isLogin = false) :
      SameButKey key key' e e
  | login (g : Nat) :
      SameButKey key key' (.wrote g 1 ⟨.login key, .login⟩) (.wrote g 1 ⟨.login key', .login⟩)

/-- The login is written as the first request of a connection, and with the key of the session. -/
theorem eq_login_of_wrote {setup : Setup H} {acts : List (Act H)} {g id : Nat} {q : Queued H}
    (h : .wrote g id q ∈ (run setup acts).history) (hq : q.isLogin = true) :
    id = 1 ∧ q = ⟨.login setup.endpoint.apiKey, .login⟩ := by
  have hwrites : (id, q) ∈ writesOn g (run setup acts).history :=
    List.mem_filterMap.2 ⟨.wrote g id q, h, by simp [Event.writeOn?]⟩
  have hstarts := startsWithLogin_of_lawful (exchange_run setup acts).lawful g
  generalize writesOn g (run setup acts).history = writes at hwrites hstarts
  cases hstarts with
  | nothing => cases hwrites
  | login numbers callers =>
    rcases List.mem_cons.1 hwrites with heq | hrest
    · cases heq
      exact ⟨rfl, rfl⟩
    · rw [callers _ hrest] at hq
      cases hq

theorem sameButKey_withKey {setup : Setup H} {acts : List (Act H)} {e : Event H}
    (h : e ∈ (run setup acts).history) :
    SameButKey setup.endpoint.apiKey key e (e.withKey key) := by
  cases e with
  | wrote g id q =>
    cases hq : q.isLogin with
    | true =>
      obtain ⟨rfl, rfl⟩ := eq_login_of_wrote h hq
      have hlogin : Event.withKey key (.wrote g 1 ⟨.login setup.endpoint.apiKey, .login⟩) =
          (.wrote g 1 ⟨.login key, .login⟩ : Event H) :=
        congrArg (fun r => Event.wrote g 1 ⟨r, .login⟩) (Request.withKey_login key _)
      rw [hlogin]
      exact .login g
    | false =>
      obtain ⟨request, reply⟩ := q
      cases reply with
      | login => cases hq
      | caller handler =>
        refine .same _ fun g' id' q' heq => ?_
        cases heq
        rfl
  | _ => exact .same _ nofun

/-- **The key stands in one place of the text of the login**, whatever it is. -/
theorem encode_login (id : Nat) : ∃ before after, ∀ key : String,
    (Request.login key).encode id =
      before ++ String.ofList (Json.stringChars key) ++ after := by
  refine ⟨String.ofList ('\x7b' :: (Request.memberChars "action" (Json.stringChars "login") ++
      ',' :: (Json.stringChars "data" ++ ':' :: '\x7b' :: (Json.stringChars "apikey" ++ [':'])))),
    String.ofList ('\x7d' :: ',' ::
      (Request.memberChars "callback_id" (Nat.toDigits 10 id) ++ ['\x7d'])), fun key => ?_⟩
  apply String.toList_inj.1
  simp [Request.encode, Request.encodeChars, Request.login, Request.entry, Request.named,
    Request.memberChars, Request.printerChars, Dict.insert, Json.compactChars, Json.compactMembers]

/-- What is the same in a run with another key, and what is not. -/
structure KeyOnlyInLogin [DecidableEq H] (setup : Setup H) (key : String) (acts : List (Act H)) :
    Prop where
  /-- The same happens at the same times, but for the key of the login. -/
  trace : List.Forall₂ (fun p p' => p.1 = p'.1 ∧ SameButKey setup.endpoint.apiKey key p.2 p'.2)
    (run setup acts).trace (run (setup.withKey key) acts).trace
  /-- The texts of the login differ in the value of the key. -/
  texts : ∃ before after, ∀ k : String, (Request.login k).encode 1 =
    before ++ String.ofList (Json.stringChars k) ++ after
  state : (run (setup.withKey key) acts).session.state = (run setup acts).session.state
  outcome : ∀ handler, (run (setup.withKey key) acts).outcome? handler =
    (run setup acts).outcome? handler
  connected : (run (setup.withKey key) acts).connected? = (run setup acts).connected?
  /-- The way to the server and its failures do not depend on the key. -/
  decided : ∀ decision,
    Endpoint.admit (setup.withKey key).endpoint decision = Endpoint.admit setup.endpoint decision
  unreachable : ∀ reason,
    (setup.withKey key).endpoint.unreachable reason = setup.endpoint.unreachable reason

theorem outcome?_withKey [DecidableEq H] (w : World H) (handler : H) :
    (w.withKey key).outcome? handler = w.outcome? handler := by
  have hfate : (w.withKey key).fate? handler = w.fate? handler := by
    unfold fate? withKey
    dsimp only
    rw [List.filterMap_map]
    congr 2
    funext p
    obtain ⟨t, e⟩ := p
    cases e <;> rfl
  unfold outcome?
  rw [hfate]
  rfl

/-- **The API key goes into the login and nowhere else.** Two runs with the same host, port,
settings and handlers, in which the same happens from outside, are the same in all that can be seen,
but for the value of the key in the logins. -/
theorem key_only_in_login [DecidableEq H] (setup : Setup H) (key : String) (acts : List (Act H)) :
    KeyOnlyInLogin setup key acts where
  trace := by
    rw [run_withKey]
    refine List.forall₂_map_right_iff.2 (List.forall₂_same.2 fun p hp => ⟨rfl, ?_⟩)
    exact sameButKey_withKey key (List.mem_map_of_mem hp)
  texts := encode_login 1
  state := by rw [run_withKey]; rfl
  outcome := fun handler => by rw [run_withKey, outcome?_withKey]
  connected := by rw [run_withKey]; rfl
  decided := fun decision => by
    rw [Setup.withKey, Endpoint.admit, Endpoint.admit, Endpoint.socketUrl_withKey]
  unreachable := fun _ => rfl

end World

end Session

end PrintClient
