import PrintClient.Proofs.Session.Exchange

/-!
# What a session does in one turn

A session takes one thing at a time: a command, a notice, or the time to connect again. What it then
makes of itself and what it records is told here once, for every kind of turn; all that happens
between two turns leaves the session alone.

* `foldl_of_ignored`: a fold over the record passes over what it ignores;
* `SameCourse`: sessions that differ at most in the queue and in the request on its way;
* `World.advance_eq`: what handing a request over can change;
* `World.Turn`: the kinds of turns, with the `Outcome` of each;
* `Step.turn`: every step of a session is a turn;
* `backlog`, `Turn.backlog_eq`: what waits in the channels becomes less;
* `World.Aside`, `act_cases_of_run`: an act of a run is a turn of the session, or the session does
  not take part in it.
-/

namespace PrintClient.Session

variable {H : Type}

theorem foldl_of_ignored {α β : Type} {f : β → α → β} {l : List α} (h : ∀ e ∈ l, ∀ b, f b e = b)
    (b : β) : l.foldl f b = b := by
  induction l with
  | nil => rfl
  | cons e l ih =>
    rw [List.foldl_cons, h e List.mem_cons_self]
    exact ih fun e' he' => h e' (List.mem_cons_of_mem e he')

/-- `s'` is `s` but for the queue and the request on its way. -/
def SameCourse (s s' : Session H) : Prop :=
  s' = { s with queue := s'.queue, inFlight := s'.inFlight }

namespace SameCourse

variable {s s' : Session H} (h : SameCourse s s')

include h

theorem state : s'.state = s.state := (congrArg Session.state h :)

theorem held : s'.held = s.held := (congrArg Session.held h :)

theorem generation : s'.generation = s.generation := (congrArg Session.generation h :)

theorem failures : s'.failures = s.failures := (congrArg Session.failures h :)

theorem reconnectAt : s'.reconnectAt = s.reconnectAt := (congrArg Session.reconnectAt h :)

theorem settings : s'.settings = s.settings := (congrArg Session.settings h :)

theorem handlersOf (event : String) : s'.handlersOf event = s.handlersOf event :=
  (congrArg (Session.handlersOf · event) h :)

end SameCourse

/-- Whether an event is about what the session itself does. Callers and connections do the rest. -/
def Event.isOwn : Event H → Bool
  | .accepted .. | .refused _ | .wrote .. | .armed .. | .read .. => false
  | _ => true

/-- The time that passes with an act. -/
def Act.delay : Act H → Nat
  | .elapse milliseconds => milliseconds
  | _ => 0

/-- What a caller asks of the session with an act. -/
def Act.command? : Act H → Option (Command H)
  | .submit request handler => some (.submit request handler)
  | .subscribe event handler => some (.subscribe event handler)
  | .onDisconnect handler => some (.onDisconnect handler)
  | .onLogin handler => some (.onLogin handler)
  | _ => none

namespace World

/-- The login was refused, or the connection has told of a failure. -/
inductive Cause (w : World H) : Notice → Failure → Prop
  | reported {failure : Failure} : Cause w (.failed failure) failure
  | refused {data : Json} {failure : Failure} (state : w.session.state = .awaitingLogin)
      (inFlight : w.session.inFlight = some w.session.loginEntry)
      (refusal : checkOk w.session.loginEntry.request.action data = .error failure) :
      Cause w (.completed data) failure

/-- What a turn makes of a world: the session but for its queue and the request on its way, what is
recorded, and what is left in the channels. -/
structure Outcome (H : Type) where
  session : Session H
  events : List (Event H)
  commands : List (Command H)
  notices : List (Nat × Notice)
  stage : Stage := .running

/-- A turn of the session in the world `w`. -/
inductive Turn (w : World H) : Outcome H → Prop
  /-- A new connection is sent on its way: the first one, or the timer has run out. -/
  | attempt (held : w.session.held = none)
      (time : w.stage = .starting ∨ w.stage = .running ∧ w.isDue = true) :
      Turn w
        { session := { w.session with
            generation := w.session.generation + 1
            held := some (w.session.generation + 1)
            state := .connecting
            reconnectAt := none }
          events := [.entered .connecting, .attempted (w.session.generation + 1)]
          commands := w.commands
          notices := w.notices }
  | stop (wish : w.cancelled = true ∨ w.commands = [] ∧ w.handles = 0) :
      Turn w
        { session := w.session.ended
          events := w.session.farewell w.commands
          commands := []
          notices := []
          stage := .ended }
  | take {request : Request} {handler : H} {rest : List (Command H)}
      (commands : w.commands = .submit request handler :: rest) :
      Turn w
        { session := w.session
          events := [.taken request handler]
          commands := rest
          notices := w.notices }
  | register {event : String} {handler : H} {rest : List (Command H)}
      (commands : w.commands = .subscribe event handler :: rest) :
      Turn w
        { session := w.session.subscribe event handler
          events := []
          commands := rest
          notices := w.notices }
  | onDisconnect {handler : H} {rest : List (Command H)}
      (commands : w.commands = .onDisconnect handler :: rest) :
      Turn w
        { session := { w.session with onDisconnect := w.session.onDisconnect ++ [handler] }
          events := []
          commands := rest
          notices := w.notices }
  | onLogin {handler : H} {rest : List (Command H)}
      (commands : w.commands = .onLogin handler :: rest) :
      Turn w
        { session := { w.session with onLogin := w.session.onLogin ++ [handler] }
          events := []
          commands := rest
          notices := w.notices }
  /-- The connection is open, so the login goes first. -/
  | greet {g : Nat} {rest : List (Nat × Notice)} (held : w.session.held = some g)
      (notices : w.notices = (g, .handshaked) :: rest) (state : w.session.state = .connecting) :
      Turn w
        { session := { w.session with state := .awaitingLogin }
          events := [.entered .awaitingLogin]
          commands := w.commands
          notices := rest }
  /-- The first response to the login accepts it. -/
  | accept {g : Nat} {data : Json} {rest : List (Nat × Notice)} (held : w.session.held = some g)
      (notices : w.notices = (g, .completed data) :: rest)
      (state : w.session.state = .awaitingLogin)
      (inFlight : w.session.inFlight = some w.session.loginEntry)
      (answered : Answered w.history g 1 w.session.loginEntry data)
      (ok : data.member? "ok" = some (.bool true)) :
      Turn w
        { session := { w.session with failures := 0, state := .connected }
          events := .entered .connected :: w.session.onLogin.map .loggedIn
          commands := w.commands
          notices := rest }
  | reply {g : Nat} {data : Json} {rest : List (Nat × Notice)} {request : Request} {handler : H}
      (held : w.session.held = some g) (notices : w.notices = (g, .completed data) :: rest)
      (state : w.session.state = .connected)
      (inFlight : w.session.inFlight = some ⟨request, .caller handler⟩) :
      Turn w
        { session := w.session
          events := [.replied handler data]
          commands := w.commands
          notices := rest }
  | deliver {g : Nat} {e : PushEvent} {rest : List (Nat × Notice)} (held : w.session.held = some g)
      (notices : w.notices = (g, .event e) :: rest) :
      Turn w
        { session := w.session
          events := (w.session.handlersOf e.name).map fun h => .notified h e
          commands := w.commands
          notices := rest }
  | tearDown {g : Nat} {notice : Notice} {failure : Failure} {rest : List (Nat × Notice)}
      (held : w.session.held = some g) (notices : w.notices = (g, notice) :: rest)
      (cause : w.Cause notice failure) :
      Turn w
        { session := w.session.tornDown w.clock
          events := w.session.teardown failure
          commands := w.commands
          notices := rest }
  /-- The notice is one of a connection that is no longer held. -/
  | skip {g : Nat} {notice : Notice} {rest : List (Nat × Notice)}
      (notices : w.notices = (g, notice) :: rest) (stale : w.session.held ≠ some g) :
      Turn w { session := w.session, events := [], commands := w.commands, notices := rest }

/-- The world `w'` comes of `w` by a turn with this outcome. -/
structure Took (w w' : World H) (o : Outcome H) : Prop where
  session : SameCourse o.session w'.session
  trace : w'.trace = w.trace ++ o.events.map fun e => (w.clock, e)
  commands : w'.commands = o.commands
  notices : w'.notices = o.notices
  stage : w'.stage = o.stage
  clock : w'.clock = w.clock
  settings : w'.session.settings = w.session.settings

variable {w w' : World H} {o : Outcome H}

theorem history_of_trace {es : List (Event H)} {now : Nat}
    (h : w'.trace = w.trace ++ es.map fun e => (now, e)) : w'.history = w.history ++ es := by
  rw [World.history, h, List.map_append, List.map_map]
  congr 1
  exact List.map_id' es

theorem Took.history (h : w.Took w' o) : w'.history = w.history ++ o.events :=
  history_of_trace h.trace

/-! ### Requests that are handed over -/

/-- Handing a request over changes a link, the queue and the request on its way, if anything. -/
theorem advance_eq (w : World H) :
    ∃ links session, w.advance = { w with links, session } ∧ SameCourse w.session session := by
  rcases w.advance_cases with h | ⟨g, l, q, rest, -, -, -, -, -, h⟩ <;> rw [h]
  · exact ⟨w.links, w.session, rfl, rfl⟩
  · exact ⟨_, _, rfl, rfl⟩

/-- A turn may end with a request that is handed over. -/
theorem Took.advance (h : w.Took w' o) : w.Took w'.advance o := by
  obtain ⟨links, session, hw, hs⟩ := w'.advance_eq
  rw [hw]
  refine ⟨?_, h.trace, h.commands, h.notices, h.stage, h.clock, hs.settings.trans h.settings⟩
  show session = _
  rw [hs, h.session]

/-! ### Every step is a turn -/

theorem took_connect (w v : World H) (hs : v.session = { w.session with reconnectAt := none })
    (htrace : v.trace = w.trace) (hcommands : v.commands = w.commands)
    (hnotices : v.notices = w.notices) (hclock : v.clock = w.clock) (hstage : v.stage = .running) :
    w.Took v.connect
      { session := { w.session with
          generation := w.session.generation + 1
          held := some (w.session.generation + 1)
          state := .connecting
          reconnectAt := none }
        events := [.entered .connecting, .attempted (w.session.generation + 1)]
        commands := w.commands
        notices := w.notices } := by
  rw [connect_eq]
  refine ⟨?_, ?_, hcommands, hnotices, hstage, hclock, ?_⟩
  · simp [SameCourse, World.note, hs]
  · simp [World.note, hs, htrace, hclock]
  · simp [World.note, hs]

theorem took_fail (w v : World H) {failure : Failure}
    (hs : v.session.tornDown w.clock = w.session.tornDown w.clock)
    (hevents : v.session.teardown failure = w.session.teardown failure) (htrace : v.trace = w.trace)
    (hcommands : v.commands = w.commands) (hclock : v.clock = w.clock)
    (hstage : v.stage = .running) :
    w.Took (v.fail failure)
      { session := w.session.tornDown w.clock
        events := w.session.teardown failure
        commands := w.commands
        notices := v.notices } := by
  obtain ⟨links, -, hw⟩ := v.fail_eq failure
  rw [hw]
  refine ⟨?_, ?_, hcommands, rfl, hstage, hclock, (congrArg Session.settings hs :)⟩
  · show SameCourse (w.session.tornDown w.clock) (v.session.tornDown v.clock)
    rw [hclock, hs]
    rfl
  · simp [World.note, htrace, hclock, hevents]

theorem took_stop (w : World H) :
    w.Took w.stop
      { session := w.session.ended
        events := w.session.farewell w.commands
        commands := []
        notices := []
        stage := .ended } := by
  obtain ⟨links, -, hw⟩ := w.stop_eq
  rw [hw]
  exact ⟨rfl, rfl, rfl, rfl, rfl, rfl, rfl⟩

theorem turn_obey {command : Command H} {rest : List (Command H)} (hr : w.stage = .running)
    (hc : w.commands = command :: rest) :
    ∃ o, w.Turn o ∧ w.Took ({ w with commands := rest }.obey command) o := by
  have hnil : w.trace = w.trace ++ ([] : List (Event H)).map fun e => (w.clock, e) :=
    (List.append_nil _).symm
  cases command with
  | submit request handler =>
    exact ⟨_, .take hc, Took.advance ⟨rfl, rfl, rfl, rfl, hr, rfl, rfl⟩⟩
  | subscribe event handler =>
    obtain ⟨links, -, hw⟩ := obey_subscribe_eq { w with commands := rest } event handler
    rw [hw]
    exact ⟨_, .register hc, rfl, hnil, rfl, rfl, hr, rfl, rfl⟩
  | onDisconnect handler => exact ⟨_, .onDisconnect hc, rfl, hnil, rfl, rfl, hr, rfl, rfl⟩
  | onLogin handler => exact ⟨_, .onLogin hc, rfl, hnil, rfl, rfl, hr, rfl, rfl⟩

/-- The response to the request on its way: a login that is accepted or refused, or the answer to a
caller. -/
theorem turn_complete {key : String} {g : Nat} {k : SessionLink H} {data : Json}
    {rest : List (Nat × Notice)} (hx : w.Exchange key) (hr : w.stage = .running)
    (hheld : w.session.held = some g) (hn : w.notices = (g, .completed data) :: rest)
    (hst : Stance w.session w.history g k.connection (.completed data :: news g rest)) :
    ∃ o, w.Turn o ∧ w.Took ({ w with notices := rest }.complete data) o := by
  obtain ⟨⟨request, reply⟩, n, hi, hlogin, hanswered⟩ := hst.answered_of_completed
  cases reply with
  | caller handler =>
    rw [complete_of_caller (w := { w with notices := rest }) hi data rfl]
    exact ⟨_, .reply hheld hn (hx.coherent.of_caller hi rfl).1 hi,
      Took.advance ⟨rfl, rfl, rfl, rfl, hr, rfl, rfl⟩⟩
  | login =>
    obtain ⟨hstate, hentry, -⟩ := hx.coherent.of_login hi rfl
    rw [hentry] at hi
    cases hok : checkOk request.action data with
    | ok =>
      rw [hentry, hlogin.1 rfl] at hanswered
      rw [← hentry] at hi
      rw [complete_of_accepted (w := { w with notices := rest }) hi data rfl hok]
      exact ⟨_, .accept hheld hn hstate (hi.trans (congrArg some hentry)) hanswered
        (checkOk_eq_ok hok), Took.advance ⟨rfl, rfl, rfl, rfl, hr, rfl, rfl⟩⟩
    | error failure =>
      have haction : w.session.loginEntry.request.action = request.action := by rw [← hentry]
      refine ⟨_, .tearDown hheld hn (.refused hstate hi (haction ▸ hok)), ?_⟩
      rw [← hentry] at hi
      rw [complete_of_refused (w := { w with notices := rest }) hi data rfl hok]
      refine took_fail w _ rfl ?_ rfl rfl rfl hr
      -- The login is no caller's request, so giving it up is not recorded.
      simp [teardown, hangUp, hi, callers, Queued.handler?]

theorem turn_heed {key : String} (hg : w.Generations) (hx : w.Exchange key)
    (hr : w.stage = .running) {notice : Notice} {rest : List (Nat × Notice)}
    (hn : w.notices = (w.session.generation, notice) :: rest) :
    ∃ o, w.Turn o ∧ w.Took ({ w with notices := rest }.heed notice) o := by
  obtain ⟨g, hheld⟩ := Option.ne_none_iff_exists'.1 (hg.held_of_notice hn)
  obtain ⟨k, hk, -⟩ := hg.link?_of_held hheld
  have hst := hx.stance g k hheld hk
  rw [← (hg.held g hheld).1] at hn
  rw [hn] at hst
  cases notice with
  | handshaked =>
    have hnews : news g ((g, .handshaked) :: rest) = .handshaked :: news g rest := by
      simp [news, Notice.isEvent]
    rw [hnews] at hst
    show ∃ o, w.Turn o ∧ w.Took ({ w with notices := rest } : World H).greet o
    rw [greet_eq]
    exact ⟨_, .greet hheld hn hst.state_of_handshaked,
      Took.advance ⟨rfl, rfl, rfl, rfl, hr, rfl, rfl⟩⟩
  | completed data =>
    have hnews : news g ((g, .completed data) :: rest) = .completed data :: news g rest := by
      simp [news, Notice.isEvent]
    rw [hnews] at hst
    exact turn_complete hx hr hheld hn hst
  | failed failure =>
    exact ⟨_, .tearDown hheld hn .reported,
      took_fail w { w with notices := rest } rfl rfl rfl rfl rfl hr⟩
  | event e => exact ⟨_, .deliver hheld hn, rfl, rfl, rfl, rfl, hr, rfl, rfl⟩

/-- **Every step of a session is one of these turns.** -/
theorem Step.turn {key : String} (hg : w.Generations) (hx : w.Exchange key) (h : w.Step w') :
    ∃ o, w.Turn o ∧ w.Took w' o := by
  cases h with
  | start stage =>
    refine ⟨_, .attempt (hg.held_of_starting stage) (.inl stage),
      took_connect w { w with stage := .running } ?_ rfl rfl rfl rfl rfl⟩
    show w.session = _
    rw [← hg.reconnectAt_of_starting stage]
  | stop _ wish => exact ⟨_, .stop wish, w.took_stop⟩
  | obey stage commands => exact turn_obey stage commands
  | heed stage _ notices => exact turn_heed hg hx stage notices
  | @skip g _ _ stage _ notices stale =>
    refine ⟨_, .skip notices fun hheld => stale (hg.held g hheld).1, ?_⟩
    exact ⟨rfl, (List.append_nil _).symm, rfl, rfl, stage, rfl, rfl⟩
  | retry stage _ _ due =>
    exact ⟨_, .attempt (hg.held_of_isDue due) (.inr ⟨stage, due⟩),
      took_connect w { w with session := _ } rfl rfl rfl rfl rfl stage⟩

/-- A turn records what the session itself does. -/
theorem Turn.isOwn (h : w.Turn o) : ∀ e ∈ o.events, e.isOwn = true := by
  cases h with
  | stop =>
    simp only [farewell, List.forall_mem_append, List.forall_mem_cons, List.forall_mem_map]
    exact ⟨⟨fun _ _ => rfl, fun _ _ => rfl⟩, rfl, fun _ _ => rfl⟩
  | tearDown =>
    simp only [teardown, hangUp, List.forall_mem_append, List.forall_mem_cons, List.forall_mem_map]
    exact ⟨fun _ _ => rfl, ⟨rfl, fun _ _ => rfl⟩, by simp [Event.isOwn]⟩
  | _ => simp [Event.isOwn]

/-- How much is in the channels of a session. -/
def backlog (w : World H) : Nat := w.commands.length + w.notices.length

/-- A session at work does not wait as long as there is something in its channels. -/
theorem exists_step_of_backlog (hs : w.stage = .running) (hb : w.backlog ≠ 0) :
    ∃ w', w.step? = some w' := by
  simp only [step?, hs, runStep?]
  split
  · exact ⟨_, rfl⟩
  · split
    · exact ⟨_, rfl⟩
    · rename_i hc
      split
      · exact ⟨_, rfl⟩
      · split
        · exact ⟨_, rfl⟩
        · rename_i hn
          simp [backlog, hc, hn] at hb

/-- While a connection is held each turn takes one thing from the channels. -/
theorem Turn.backlog_eq {g : Nat} (h : w.Turn o) (hheld : w.session.held = some g)
    (hkept : o.session.held = some g) :
    w.backlog = o.commands.length + o.notices.length + 1 := by
  cases h with
  | attempt held => rw [held] at hheld; cases hheld
  | stop => cases hkept
  | tearDown => cases hkept
  | take commands => simp only [backlog, commands, List.length_cons]; omega
  | register commands => simp only [backlog, commands, List.length_cons]; omega
  | onDisconnect commands => simp only [backlog, commands, List.length_cons]; omega
  | onLogin commands => simp only [backlog, commands, List.length_cons]; omega
  | greet _ notices => simp only [backlog, notices, List.length_cons]; omega
  | accept _ notices => simp only [backlog, notices, List.length_cons]; omega
  | reply _ notices => simp only [backlog, notices, List.length_cons]; omega
  | deliver _ notices => simp only [backlog, notices, List.length_cons]; omega
  | skip notices => simp only [backlog, notices, List.length_cons]; omega

/-- No generation comes back. -/
theorem Turn.generation_le (h : w.Turn o) : w.session.generation ≤ o.session.generation := by
  cases h with
  | attempt => exact Nat.le_succ _
  | stop => exact Nat.le_succ _
  | tearDown => exact Nat.le_succ _
  | _ => exact Nat.le_refl _

/-! ### What the session does not take part in -/

/-- Callers, the transport, the clock or a connection did something; `delay` has passed, and the
commands `handed` have been put into the channel. -/
structure Aside (w w' : World H) (delay : Nat) (handed : List (Command H)) : Prop where
  session : w'.session = w.session
  stage : w'.stage = w.stage
  clock : w'.clock = w.clock + delay
  commands : w.stage ≠ .ended → w'.commands = w.commands ++ handed
  trace : ∃ es : List (Event H), (∀ e ∈ es, e.isOwn = false) ∧
    w'.trace = w.trace ++ es.map fun e => (w.clock, e)

theorem Aside.history {delay : Nat} {handed : List (Command H)} (h : w.Aside w' delay handed) :
    ∃ es : List (Event H), (∀ e ∈ es, e.isOwn = false) ∧ w'.history = w.history ++ es := by
  obtain ⟨es, hes, ht⟩ := h.trace
  exact ⟨es, hes, history_of_trace ht⟩

theorem Aside.of_trace_eq {delay : Nat} (hs : w'.session = w.session) (hstage : w'.stage = w.stage)
    (hclock : w'.clock = w.clock + delay) (hcommands : w'.commands = w.commands)
    (ht : w'.trace = w.trace) : w.Aside w' delay [] :=
  ⟨hs, hstage, hclock, fun _ => by rw [hcommands, List.append_nil], [], by simp, by simp [ht]⟩

theorem aside_tryCommand (w : World H) (c : Command H) (handler : H) :
    w.Aside (w.tryCommand c handler) 0 [c] := by
  rcases w.command_cases c with ⟨hs, hc⟩ | ⟨-, hc⟩ <;> rw [tryCommand, hc]
  · exact ⟨rfl, rfl, rfl, (absurd hs ·), [.refused handler], by simp [Event.isOwn], rfl⟩
  · exact ⟨rfl, rfl, rfl, fun _ => rfl, [], by simp, (List.append_nil _).symm⟩

theorem aside_submit (w : World H) (request : Request) (handler : H) :
    w.Aside (w.submit request handler) 0 [.submit request handler] := by
  rcases w.command_cases (.submit request handler) with ⟨hs, hc⟩ | ⟨-, hc⟩ <;> rw [submit, hc]
  · exact ⟨rfl, rfl, rfl, (absurd hs ·), [.refused handler], by simp [Event.isOwn], rfl⟩
  · exact ⟨rfl, rfl, rfl, fun _ => rfl, [.accepted request handler], by simp [Event.isOwn], rfl⟩

theorem aside_updateLink (w : World H) (g : Nat) (f : SessionLink H → SessionLink H) :
    w.Aside (w.updateLink g f) 0 [] := by
  obtain ⟨links, -, hw⟩ := w.updateLink_eq g f
  rw [hw]
  exact .of_trace_eq rfl rfl rfl rfl rfl

theorem aside_hear (w : World H) (g : Nat) (l : SessionLink H)
    (effects : List (Connection.Effect (Reply H) String)) :
    w.Aside ((w.setLink g l).hear g effects) 0 [] := by
  have hown : ∀ e ∈ effects.filterMap (recordOf g), e.isOwn = false := by
    intro e he
    rcases mem_filterMap_recordOf he with ⟨_, _, rfl⟩ | ⟨_, rfl⟩ | ⟨_, rfl⟩ <;> rfl
  rcases (w.setLink g l).hear_cases g effects with ⟨-, hw⟩ | ⟨-, hw⟩ <;> rw [hw]
  · exact ⟨rfl, rfl, rfl, fun _ => (List.append_nil _).symm, _, hown, rfl⟩
  · exact ⟨rfl, rfl, rfl, fun _ => (List.append_nil _).symm, _, hown, rfl⟩

theorem aside_or_step (w : World H) (a : Act H) :
    w.Aside (w.act a) a.delay a.command?.toList ∨ (a = .step ∧ w.Step (w.act a)) := by
  have hnothing : w.Aside w 0 [] := .of_trace_eq rfl rfl rfl rfl rfl
  cases a with
  | submit request handler => exact .inl (w.aside_submit request handler)
  | subscribe event handler => exact .inl (w.aside_tryCommand _ handler)
  | onDisconnect handler => exact .inl (w.aside_tryCommand _ handler)
  | onLogin handler => exact .inl (w.aside_tryCommand _ handler)
  | shutdown => exact .inl (.of_trace_eq rfl rfl rfl rfl rfl)
  | clone => exact .inl (.of_trace_eq rfl rfl rfl rfl rfl)
  | drop => exact .inl (.of_trace_eq rfl rfl rfl rfl rfl)
  | offer g outcome => exact .inl (w.aside_updateLink g _)
  | arrive g i => exact .inl (w.aside_updateLink g _)
  | breakWrites g reason => exact .inl (w.aside_updateLink g _)
  | stall g => exact .inl (w.aside_updateLink g _)
  | resume g => exact .inl (w.aside_updateLink g _)
  | elapse milliseconds => exact .inl (.of_trace_eq rfl rfl rfl rfl rfl)
  | step =>
    show w.Aside (w.step?.getD w) 0 [] ∨ (_ ∧ w.Step (w.step?.getD w))
    cases h : w.step? with
    | none => exact .inl hnothing
    | some w' => exact .inr ⟨rfl, step_of_step? h⟩
  | linkStep g =>
    show w.Aside ((w.linkStep? g).getD w) 0 [] ∨ _
    cases h : w.linkStep? g with
    | none => exact .inl hnothing
    | some w' =>
      obtain ⟨l, l', effects, -, -, rfl⟩ := linkStep?_eq_some h
      exact .inl (w.aside_hear g l' effects)

/-! ### Acts of runs -/

section Runs

variable (setup : Setup H) (acts : List (Act H))

theorem run_concat (a : Act H) : run setup (acts ++ [a]) = (run setup acts).act a :=
  run_append setup acts [a]

/-- **An act of a run is a turn of the session, or the session does not take part in it.** -/
theorem act_cases_of_run (a : Act H) :
    (run setup acts).Aside ((run setup acts).act a) a.delay a.command?.toList ∨
      a = .step ∧ (run setup acts).stage ≠ .ended ∧ ∃ o, (run setup acts).Turn o ∧
        (run setup acts).Took ((run setup acts).act a) o := by
  refine ((run setup acts).aside_or_step a).imp_right fun ⟨ha, hstep⟩ => ?_
  exact ⟨ha, hstep.stage_ne_ended,
    hstep.turn (generations_run setup acts) (exchange_run setup acts)⟩

/-- What happened is not taken back. -/
theorem trace_act_of_run (a : Act H) :
    ∃ more, ((run setup acts).act a).trace = (run setup acts).trace ++ more := by
  rcases act_cases_of_run setup acts a with haside | ⟨-, -, o, -, htook⟩
  · obtain ⟨es, -, htrace⟩ := haside.trace
    exact ⟨_, htrace⟩
  · exact ⟨_, htook.trace⟩

theorem history_act_of_run (a : Act H) :
    ∃ es, ((run setup acts).act a).history = (run setup acts).history ++ es := by
  obtain ⟨more, htrace⟩ := trace_act_of_run setup acts a
  exact ⟨more.map Prod.snd, by rw [history, htrace, List.map_append, history]⟩

theorem generation_le_of_act (a : Act H) :
    (run setup acts).session.generation ≤ ((run setup acts).act a).session.generation := by
  rcases act_cases_of_run setup acts a with haside | ⟨-, -, o, hturn, htook⟩
  · exact Nat.le_of_eq (by rw [haside.session])
  · rw [htook.session.generation]
    exact hturn.generation_le

/-- As long as a connection is held each step takes one thing from the channels. -/
theorem backlog_step {g : Nat} (hheld : (run setup acts).session.held = some g)
    (hkept : (run setup (acts ++ [.step])).session.held = some g)
    (hb : (run setup acts).backlog ≠ 0) :
    (run setup (acts ++ [.step])).backlog + 1 = (run setup acts).backlog := by
  have hg := generations_run setup acts
  obtain ⟨w', hw⟩ := exists_step_of_backlog (hg.running (by simp [hheld])) hb
  have hstep : run setup (acts ++ [.step]) = w' := by
    rw [run_concat]
    show (run setup acts).step?.getD _ = w'
    rw [hw]
    rfl
  obtain ⟨o, hturn, htook⟩ := (step_of_step? hw).turn hg (exchange_run setup acts)
  rw [hstep, htook.session.held] at hkept
  rw [hstep, backlog, htook.commands, htook.notices, hturn.backlog_eq hheld hkept]

end Runs

end World

end PrintClient.Session
