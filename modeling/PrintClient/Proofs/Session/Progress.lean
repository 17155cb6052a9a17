import PrintClient.Proofs.Connection.Deeds
import PrintClient.Proofs.Session.Exchange

/-!
# A session is never stuck

When a session at work has nothing to do, it waits for its timer, for the way to the server to end,
for the transport to take the text of a request, for a response within its time, or for a caller.
All but one of these come to an end by themselves or need none: while a request is being written no
time runs, and a connection attends to nothing else.

* `World.Quiescent`: nothing is left in the channels and no time has come;
  `quiescent_of_step?_eq_none`: so it is when nothing can be done;
* `Rest`, `World.RestsIn`: what a session can wait for;
* `quiescent_rests`: in every run a quiescent session waits for exactly one of these;
* `World.Suspended`, `suspended_write_stays`: a text that the transport does not take keeps the
  session waiting, whatever callers, the server and the clock do;
* `stalled_write_strands_request`: such a session, which waits for nothing that has a time.
-/

namespace PrintClient.Session

variable {H : Type}

/-- What a session that has nothing to do waits for. -/
inductive Rest where
  | reconnection
  | handshake
  /-- For the transport to take the text of the login. -/
  | loginText
  | login
  /-- For the transport to take the text of a caller's request. -/
  | requestText
  | response
  | caller
  deriving DecidableEq

namespace World

/-- Nothing is left in the channels of the session and of its connection, and no time has come. -/
structure Quiescent (w : World H) : Prop where
  commands : w.commands = []
  notices : w.notices = []
  timer : w.isDue = false
  connection : ∀ g l t, w.session.held = some g → w.link? g = some l →
    l.connection.phase = .talking t →
      l.connection.inbox = [] ∧ l.unread = [] ∧ Link.isDue t w.clock = false

/-- The connection that is held, and that nobody wants closed. -/
structure IsHeld (w : World H) (g : Nat) (l : SessionLink H) : Prop where
  held : w.session.held = some g
  link : w.link? g = some l
  live : l.connection.cancelled = false

/-- The connection that is held awaits the response to a request, and its time has not come. -/
def Awaits (w : World H) (q : Queued H) (id : Nat) : Prop :=
  ∃ g l t deadline, w.IsHeld g l ∧ l.connection.phase = .talking t ∧
    t.pending = some ⟨id, q.reply, deadline⟩ ∧ w.clock < deadline ∧ Awaited w.history g id q

/-- The connection that is held is writing a request. It goes on unless its transport takes nothing.
-/
def Writes (w : World H) (q : Queued H) (id : Nat) : Prop :=
  ∃ g l t, w.IsHeld g l ∧ l.connection.phase = .writing t q.reply ∧ t.lastId = id ∧
    (l.step? w.clock = none ↔ l.writeFault = none ∧ l.stalled = true) ∧ Awaited w.history g id q

/-- What it means that a session waits for something. -/
def RestsIn (w : World H) : Rest → Prop
  | .reconnection => w.session.state = .disconnected ∧ w.session.held = none ∧
      ∃ t, w.session.reconnectAt = some t ∧ w.clock < t
  | .handshake =>
    w.session.state = .connecting ∧ ∃ g l, w.IsHeld g l ∧ l.connection.phase = .opening ∧
      (l.step? w.clock = none → l.isWaiting = true)
  | .loginText => w.session.state = .awaitingLogin ∧
      w.session.inFlight = some w.session.loginEntry ∧ w.Writes w.session.loginEntry 1
  | .login => w.session.state = .awaitingLogin ∧ w.session.inFlight = some w.session.loginEntry ∧
      w.Awaits w.session.loginEntry 1
  | .requestText =>
    w.session.state = .connected ∧ ∃ q id, w.session.inFlight = some q ∧ q.isLogin = false ∧
      w.Writes q id
  | .response =>
    w.session.state = .connected ∧ ∃ q id, w.session.inFlight = some q ∧ q.isLogin = false ∧
      w.Awaits q id
  | .caller => w.session.state = .connected ∧ w.session.inFlight = none ∧ w.session.queue = [] ∧
      ∃ g l, w.IsHeld g l ∧ l.isUp = true

/-- Whether the connection that is held is writing a request. -/
def isWriting (w : World H) : Bool :=
  (w.session.held.bind w.link?).any fun l => l.connection.writing?.isSome

/-- What a session can wait for, by what it has on its way. -/
def rest (w : World H) : Rest :=
  match w.session.state with
  | .disconnected => .reconnection
  | .connecting => .handshake
  | .awaitingLogin => if w.isWriting then .loginText else .login
  | .connected =>
    if w.session.inFlight.isNone then .caller
    else if w.isWriting then .requestText
    else .response

variable {w : World H}

theorem isWriting_of_isHeld {g : Nat} {l : SessionLink H} (h : w.IsHeld g l) :
    w.isWriting = l.connection.writing?.isSome := by
  simp [isWriting, h.held, h.link]

theorem Writes.isWriting {q : Queued H} {id : Nat} (h : w.Writes q id) : w.isWriting = true := by
  obtain ⟨g, l, t, hheld, hphase, -⟩ := h
  simp [isWriting_of_isHeld hheld, Connection.writing?, hphase]

/-- A request that is being written has no time by which its response is to come. -/
theorem Awaits.isWriting {q : Queued H} {id : Nat} (h : w.Awaits q id) : w.isWriting = false := by
  obtain ⟨g, l, t, deadline, hheld, hphase, -⟩ := h
  simp [isWriting_of_isHeld hheld, Connection.writing?, hphase]

/-- **A session waits for one thing only.** -/
theorem RestsIn.eq_rest {r : Rest} (h : w.RestsIn r) : r = w.rest := by
  cases r with
  | reconnection => simp [rest, h.1]
  | handshake => simp [rest, h.1]
  | loginText => simp [rest, h.1, h.2.2.isWriting]
  | login => simp [rest, h.1, h.2.2.isWriting]
  | requestText =>
    obtain ⟨hstate, q, id, hi, -, hwrites⟩ := h
    simp [rest, hstate, hi, hwrites.isWriting]
  | response =>
    obtain ⟨hstate, q, id, hi, -, hawaits⟩ := h
    simp [rest, hstate, hi, hawaits.isWriting]
  | caller => simp [rest, h.1, h.2.1]

/-- A session that is logged in keeps no request back. -/
theorem RestsIn.queue_eq_nil {r : Rest} (h : w.RestsIn r) (hs : w.session.state = .connected)
    (hi : w.session.inFlight = none) : w.session.queue = [] := by
  have hrest : w.rest = .caller := by simp [rest, hs, hi]
  rw [h.eq_rest, hrest] at h
  exact h.2.2.1

/-- A request on its way has a time by which it ends, once its text is taken. -/
theorem RestsIn.awaits_or_writes {r : Rest} (h : w.RestsIn r) (hc : Coherent w.session)
    {q : Queued H} (hi : w.session.inFlight = some q) : ∃ id, w.Awaits q id ∨ w.Writes q id := by
  have hapart : ¬ (w.session.state = .disconnected ∨ w.session.state = .connecting) := by
    intro hs
    cases hi.symm.trans (hc.apart_of_state hs).1
  cases r with
  | reconnection => exact absurd (.inl h.1) hapart
  | handshake => exact absurd (.inr h.1) hapart
  | loginText =>
    obtain ⟨-, hi', hwrites⟩ := h
    obtain rfl := Option.some.inj (hi'.symm.trans hi)
    exact ⟨1, .inr hwrites⟩
  | login =>
    obtain ⟨-, hi', hawaits⟩ := h
    obtain rfl := Option.some.inj (hi'.symm.trans hi)
    exact ⟨1, .inl hawaits⟩
  | requestText =>
    obtain ⟨-, q', id, hi', -, hwrites⟩ := h
    obtain rfl := Option.some.inj (hi'.symm.trans hi)
    exact ⟨id, .inr hwrites⟩
  | response =>
    obtain ⟨-, q', id, hi', -, hawaits⟩ := h
    obtain rfl := Option.some.inj (hi'.symm.trans hi)
    exact ⟨id, .inl hawaits⟩
  | caller => cases hi.symm.trans h.2.1

/-- When neither the session nor its connection has anything to do, the session is quiescent. -/
theorem quiescent_of_step?_eq_none (hg : w.Generations) (hr : w.stage = .running)
    (hs : w.step? = none) (hl : ∀ g, w.session.held = some g → w.linkStep? g = none) :
    w.Quiescent := by
  rw [step?, hr] at hs
  simp only [runStep?] at hs
  split at hs
  · cases hs
  · split at hs
    · cases hs
    · rename_i hcommands
      split at hs
      · cases hs
      · split at hs
        · cases hs
        · rename_i hnotices
          split at hs
          · cases hs
          · rename_i htimer
            refine ⟨hcommands, hnotices, Bool.not_eq_true _ ▸ htimer,
              fun g l t hheld hlink hphase => ?_⟩
            obtain ⟨l', hl', hlive⟩ := hg.link?_of_held hheld
            obtain rfl := Option.some.inj (hlink.symm.trans hl')
            have hstuck := hl g hheld
            simp only [linkStep?, hlink, Option.map_eq_none_iff] at hstuck
            exact (Link.step?_eq_none_of_talking hphase hlive).1 hstuck

/-- Without a connection the timer runs. -/
theorem restsIn_reconnection (hg : w.Generations) (hr : w.stage = .running) (hq : w.Quiescent)
    (hheld : w.session.held = none) : w.RestsIn .reconnection := by
  obtain ⟨t, ht⟩ := Option.ne_none_iff_exists'.1 (hg.timer.2 ⟨hheld, hr⟩)
  have htimer := hq.timer
  rw [isDue, ht] at htimer
  exact ⟨hg.state.2 hheld, hheld, t, ht, Nat.lt_of_not_le (of_decide_eq_false htimer)⟩

theorem not_failures_nil : ¬ Failures [] := fun h => h.1 rfl

/-- With a connection the session waits for what the connection is at. -/
theorem restsIn_of_stance {key : String} (h : w.Exchange key) (hq : w.Quiescent) {g : Nat}
    {l : SessionLink H} (hheld : w.IsHeld g l) : ∃ r, w.RestsIn r := by
  have hst := h.stance g l hheld.held hheld.link
  rw [hq.notices] at hst
  have hrest := fun t => hq.connection g l t hheld.held hheld.link
  have hnews : news g ([] : List (Nat × Notice)) = [] := rfl
  rw [hnews] at hst
  cases hst with
  | opening state phase =>
    refine ⟨.handshake, state, g, l, hheld, phase, fun hstuck => ?_⟩
    simp only [Link.step?, phase, hheld.live, Bool.false_eq_true, if_false, Link.openStep?]
      at hstuck
    cases houtcome : l.outcome with
    | none => simp [Link.isWaiting, phase, hheld.live, houtcome]
    | some outcome => cases outcome <;> simp [houtcome] at hstuck
  -- The connection would still have the request in its inbox.
  | @handed t q inFlight phase _ requests =>
    rw [Connection.requests, (hrest t phase).1] at requests
    cases requests
  | @writing t q inFlight phase _ _ login awaited =>
    have hwrites : w.Writes q t.lastId :=
      ⟨g, l, t, hheld, phase, rfl, Link.step?_eq_none_of_writing phase, awaited⟩
    cases hq : q.isLogin with
    | true =>
      obtain ⟨hstate, rfl, -⟩ := h.coherent.of_login inFlight hq
      rw [login.1 hq] at hwrites
      exact ⟨.loginText, hstate, inFlight, hwrites⟩
    | false =>
      exact ⟨.requestText, (h.coherent.of_caller inFlight hq).1, q, t.lastId, inFlight, hq,
        hwrites⟩
  | @awaiting t q deadline inFlight phase pending _ _ login awaited =>
    have hdue := (hrest t phase).2.2
    rw [Link.isDue, pending] at hdue
    have hawaits : w.Awaits q t.lastId :=
      ⟨g, l, t, deadline, hheld, phase, pending, Nat.lt_of_not_le (of_decide_eq_false hdue),
        awaited⟩
    cases hq : q.isLogin with
    | true =>
      obtain ⟨hstate, rfl, -⟩ := h.coherent.of_login inFlight hq
      rw [login.1 hq] at hawaits
      exact ⟨.login, hstate, inFlight, hawaits⟩
    | false =>
      exact ⟨.response, (h.coherent.of_caller inFlight hq).1, q, t.lastId, inFlight, hq, hawaits⟩
  | @idle t state inFlight queue free =>
    exact ⟨.caller, state, inFlight, queue, g, l, hheld,
      by simp [Link.isUp, free.phase, hheld.live]⟩
  -- A connection that is of no use any more has told so, and the channel is empty.
  | expired _ _ failures => exact (not_failures_nil failures).elim
  | broken _ failures => exact (not_failures_nil failures).elim

/-- **A session at work that has nothing to do waits for exactly one thing.** In particular no
request waits in the queue of a session that is logged in and has none on its way, and a request on
its way has a time by which it ends, unless it is still being written. -/
theorem quiescent_rests (setup : Setup H) (acts : List (Act H))
    (hr : (run setup acts).stage = .running) (hq : (run setup acts).Quiescent) :
    (∃ r, (run setup acts).RestsIn r ∧ ∀ r', (run setup acts).RestsIn r' → r' = r) ∧
      ((run setup acts).session.state = .connected → (run setup acts).session.inFlight = none →
        (run setup acts).session.queue = []) ∧
      ∀ q, (run setup acts).session.inFlight = some q →
        ∃ id, (run setup acts).Awaits q id ∨ (run setup acts).Writes q id := by
  have hg := generations_run setup acts
  have h := exchange_run setup acts
  obtain ⟨r, hrests⟩ : ∃ r, (run setup acts).RestsIn r := by
    cases hheld : (run setup acts).session.held with
    | none => exact ⟨.reconnection, restsIn_reconnection hg hr hq hheld⟩
    | some g =>
      obtain ⟨l, hl, hlive⟩ := hg.link?_of_held hheld
      exact restsIn_of_stance h hq ⟨hheld, hl, hlive⟩
  exact ⟨⟨r, hrests, fun r' h' => h'.eq_rest.trans hrests.eq_rest.symm⟩, hrests.queue_eq_nil,
    fun q => hrests.awaits_or_writes h.coherent⟩

/-- A request is on its way, and another one waits in the queue. -/
def sampleWait : List (Act Nat) :=
  sampleLogin ++ [.submit (.named "listPrinter") 1, .submit (.named "listModels") 2, .step, .step,
    .linkStep 1, .linkStep 1]

theorem sampleWait_rests : (run sampleSetup sampleWait).stage = .running ∧
    (run sampleSetup sampleWait).Quiescent ∧
    ((∃ r, (run sampleSetup sampleWait).RestsIn r ∧
        ∀ r', (run sampleSetup sampleWait).RestsIn r' → r' = r) ∧
      ((run sampleSetup sampleWait).session.state = .connected →
        (run sampleSetup sampleWait).session.inFlight = none →
        (run sampleSetup sampleWait).session.queue = []) ∧
      ∀ q, (run sampleSetup sampleWait).session.inFlight = some q →
        ∃ id, (run sampleSetup sampleWait).Awaits q id ∨
          (run sampleSetup sampleWait).Writes q id) := by
  have hr : (run sampleSetup sampleWait).stage = .running := by decide +kernel
  have hheld : (run sampleSetup sampleWait).session.held = some 1 := by decide +kernel
  have hstep : (run sampleSetup sampleWait).step?.isNone = true := by decide +kernel
  have hlink : ((run sampleSetup sampleWait).linkStep? 1).isNone = true := by decide +kernel
  have hq : (run sampleSetup sampleWait).Quiescent := by
    refine quiescent_of_step?_eq_none (generations_run sampleSetup sampleWait) hr
      (Option.isNone_iff_eq_none.1 hstep) fun g hg => ?_
    obtain rfl := Option.some.inj (hheld.symm.trans hg)
    exact Option.isNone_iff_eq_none.1 hlink
  exact ⟨hr, hq, quiescent_rests sampleSetup sampleWait hr hq⟩

/-! ### Texts that the transport does not take -/

/-- A request is being written on a connection whose transport takes nothing. -/
def HoldsUp (w : World H) (g : Nat) (q : Queued H) : Prop :=
  ∃ l t, w.link? g = some l ∧ l.connection.phase = .writing t q.reply ∧ l.writeFault = none ∧
    l.stalled = true

/-- The session keeps this state, with the request on its way held up and no wish to end. -/
structure Suspended (w : World H) (g : Nat) (q : Queued H) (state : SessionState) : Prop where
  stage : w.stage = .running
  live : w.cancelled = false
  reachable : w.handles ≠ 0
  notices : w.notices = []
  state : w.session.state = state
  inFlight : w.session.inFlight = some q
  held : w.session.held = some g
  heldUp : w.HoldsUp g q

end World

/-- Nobody gives the session up, and the transport of this connection neither goes on nor fails. -/
def Act.LeavesStalled (g : Nat) : Act H → Prop
  | .shutdown | .drop => False
  | .resume g' | .breakWrites g' _ => g' ≠ g
  | _ => True

namespace World

section Suspended

variable {w w' : World H} {g : Nat} {q : Queued H} {state : SessionState}

/-- One link may change in what is no matter of writing. -/
theorem HoldsUp.updateLink (h : w.HoldsUp g q) (g' : Nat) {f : SessionLink H → SessionLink H}
    (hf : g' = g → ∀ l, (f l).connection.phase = l.connection.phase ∧
      (f l).writeFault = l.writeFault ∧ (l.stalled = true → (f l).stalled = true)) :
    (w.updateLink g' f).HoldsUp g q := by
  obtain ⟨l, t, hl, hphase, hfault, hstalled⟩ := h
  obtain ⟨links, hlinks, hw⟩ := w.updateLink_eq g' f
  rw [hw]
  by_cases hg : g' = g
  · obtain ⟨hphase', hfault', hstalled'⟩ := hf hg l
    refine ⟨f l, t, ?_, hphase'.trans hphase, hfault'.trans hfault, hstalled' hstalled⟩
    rw [link?, hlinks g, if_pos hg.symm, hg, hl]
    rfl
  · refine ⟨l, t, ?_, hphase, hfault, hstalled⟩
    rw [link?, hlinks g, if_neg fun he => hg he.symm]
    exact hl

theorem Suspended.updateLink (h : w.Suspended g q state) (g' : Nat)
    {f : SessionLink H → SessionLink H}
    (hf : g' = g → ∀ l, (f l).connection.phase = l.connection.phase ∧
      (f l).writeFault = l.writeFault ∧ (l.stalled = true → (f l).stalled = true)) :
    (w.updateLink g' f).Suspended g q state := by
  have hup := h.heldUp.updateLink g' hf
  obtain ⟨links, -, hw⟩ := w.updateLink_eq g' f
  rw [hw] at hup ⊢
  exact ⟨h.stage, h.live, h.reachable, h.notices, h.state, h.inFlight, h.held, hup⟩

/-- A request behind the one on its way waits in the queue; handlers are kept. -/
theorem Suspended.obey (h : w.Suspended g q state) (command : Command H) :
    (w.obey command).Suspended g q state := by
  cases command with
  | submit request handler =>
    have hwaits : w.obey (.submit request handler) =
        { w with session := w.session.enqueue request handler }.note [.taken request handler] := by
      simp [World.obey, World.advance, World.note, Session.enqueue, h.inFlight]
    rw [hwaits]
    exact ⟨h.stage, h.live, h.reachable, h.notices, h.state, h.inFlight, h.held, h.heldUp⟩
  | subscribe event handler =>
    obtain ⟨l, t, hl, hphase, hfault, hstalled⟩ := h.heldUp
    obtain ⟨links, hlinks, hw⟩ := w.obey_subscribe_eq event handler
    rw [hw]
    refine ⟨h.stage, h.live, h.reachable, h.notices, h.state, h.inFlight, h.held, ?_⟩
    rcases hlinks g with hlookup | hlookup
    · exact ⟨l, t, hlookup.trans hl, hphase, hfault, hstalled⟩
    · rw [hl] at hlookup
      exact ⟨_, t, hlookup, (l.connection.alike_subscribe event event).phase.trans hphase, hfault,
        hstalled⟩
  | _ => exact ⟨h.stage, h.live, h.reachable, h.notices, h.state, h.inFlight, h.held, h.heldUp⟩

theorem Suspended.step (h : w.Suspended g q state) (hg : w.Generations) (hs : w.Step w') :
    w'.Suspended g q state := by
  cases hs with
  | start stage => cases h.stage.symm.trans stage
  | stop _ wish =>
    rcases wish with hcancelled | ⟨-, hhandles⟩
    · cases h.live.symm.trans hcancelled
    · exact absurd hhandles h.reachable
  | @obey command rest =>
    exact Suspended.obey (w := { w with commands := rest }) ⟨h.stage, h.live, h.reachable,
      h.notices, h.state, h.inFlight, h.held, h.heldUp⟩ command
  | heed _ _ notices => cases h.notices.symm.trans notices
  | skip _ _ notices => cases h.notices.symm.trans notices
  | retry _ _ _ due => cases h.held.symm.trans (hg.held_of_isDue due)

/-- The connection that writes does nothing, and nothing is heard of the others. -/
theorem Suspended.linkStep (h : w.Suspended g q state) (hg : w.Generations) {g' : Nat}
    (hs : w.linkStep? g' = some w') : w'.Suspended g q state := by
  obtain ⟨l, t, hl, hphase, hfault, hstalled⟩ := h.heldUp
  obtain ⟨l₁, l', effects, hl₁, hstep, rfl⟩ := linkStep?_eq_some hs
  -- It is another connection that goes on, so one that was given up.
  have hother : g' ≠ g := by
    rintro rfl
    obtain rfl := Option.some.inj (hl.symm.trans hl₁)
    cases hstep.symm.trans ((Link.step?_eq_none_of_writing hphase).2 ⟨hfault, hstalled⟩)
  have hcancelled : l₁.connection.cancelled = true := by
    have hclosed : w.isClosed? g' = some l₁.connection.cancelled := by rw [isClosed?, hl₁]; rfl
    rcases hg.others g' _ hclosed with hheld | ⟨-, hcancelled⟩
    · exact absurd (Option.some.inj (hheld.symm.trans h.held)) hother
    · exact hcancelled
  rw [hear_of_silent _ (Link.step?_of_cancelled hcancelled hstep)]
  refine ⟨h.stage, h.live, h.reachable, h.notices, h.state, h.inFlight, h.held, l, t, ?_, hphase,
    hfault, hstalled⟩
  show (w.setLink g' l').link? g = some l
  rw [link?_setLink, if_neg fun he => hother he.symm, hl]

theorem Suspended.tryCommand (h : w.Suspended g q state) (command : Command H) (handler : H) :
    (w.tryCommand command handler).Suspended g q state := by
  rcases w.command_cases command with ⟨hended, -⟩ | ⟨-, hc⟩
  · cases h.stage.symm.trans hended
  · rw [World.tryCommand, hc]
    exact ⟨h.stage, h.live, h.reachable, h.notices, h.state, h.inFlight, h.held, h.heldUp⟩

theorem Suspended.act (h : w.Suspended g q state) (hg : w.Generations) {a : Act H}
    (ha : a.LeavesStalled g) : (w.act a).Suspended g q state := by
  cases a with
  | submit request handler =>
    rcases w.command_cases (.submit request handler) with ⟨hended, -⟩ | ⟨-, hc⟩
    · cases h.stage.symm.trans hended
    · show (w.submit request handler).Suspended g q state
      rw [World.submit, hc]
      exact ⟨h.stage, h.live, h.reachable, h.notices, h.state, h.inFlight, h.held, h.heldUp⟩
  | subscribe event handler => exact h.tryCommand _ handler
  | onDisconnect handler => exact h.tryCommand _ handler
  | onLogin handler => exact h.tryCommand _ handler
  | shutdown => exact ha.elim
  | drop => exact ha.elim
  | clone =>
    exact ⟨h.stage, h.live, Nat.succ_ne_zero _, h.notices, h.state, h.inFlight, h.held, h.heldUp⟩
  | elapse milliseconds =>
    exact ⟨h.stage, h.live, h.reachable, h.notices, h.state, h.inFlight, h.held, h.heldUp⟩
  | offer g' outcome => exact h.updateLink g' fun _ _ => ⟨rfl, rfl, id⟩
  | arrive g' i => exact h.updateLink g' fun _ _ => ⟨rfl, rfl, id⟩
  | stall g' => exact h.updateLink g' fun _ _ => ⟨rfl, rfl, fun _ => rfl⟩
  | resume g' => exact h.updateLink g' fun hg' => absurd hg' ha
  | breakWrites g' reason => exact h.updateLink g' fun hg' => absurd hg' ha
  | step =>
    show (w.step?.getD w).Suspended g q state
    cases hs : w.step? with
    | none => exact h
    | some w' => exact h.step hg (step_of_step? hs)
  | linkStep g' =>
    show ((w.linkStep? g').getD w).Suspended g q state
    cases hs : w.linkStep? g' with
    | none => exact h
    | some w' => exact h.linkStep hg hs

/-- **A text that the transport does not take keeps its session waiting.** Until the transport goes
on or fails, or the session is given up, nothing changes that: no time ends it, no frame of the
server and no caller. -/
theorem suspended_write_stays {setup : Setup H} {acts : List (Act H)}
    (h : (run setup acts).Suspended g q state) {more : List (Act H)}
    (hmore : ∀ a ∈ more, a.LeavesStalled g) : (run setup (acts ++ more)).Suspended g q state := by
  induction more using List.reverseRecOn with
  | nil => rwa [List.append_nil]
  | append_singleton more a ih =>
    have hbefore := ih fun a' ha' => hmore a' (List.mem_append_left _ ha')
    rw [← List.append_assoc, run_append]
    exact hbefore.act (generations_run setup _) (hmore a (by simp))

/-- A request that is held up has no time by which it ends. -/
theorem Suspended.not_awaits (h : w.Suspended g q state) (q' : Queued H) (id : Nat) :
    ¬ w.Awaits q' id := by
  obtain ⟨l, t, hl, hphase, -⟩ := h.heldUp
  have hwriting : w.isWriting = true := by
    simp [World.isWriting, h.held, hl, Connection.writing?, hphase]
  intro hawaits
  cases hwriting.symm.trans hawaits.isWriting

end Suspended

/-- A request whose text the transport does not take, as the other side reads nothing any more. -/
def sampleStall : List (Act Nat) :=
  sampleLogin ++ [.stall 1, .submit (.named "listPrinter") 1, .step, .linkStep 1]

/-- **A session may wait for something that has no time.** It is logged in, its channels and that of
its connection are empty, nothing is left to be read, and a request is on its way that has no
deadline; and so it stays, however much time passes. -/
theorem stalled_write_strands_request :
    ((run sampleSetup sampleStall).stage = .running ∧ (run sampleSetup sampleStall).Quiescent ∧
      (∃ l, (run sampleSetup sampleStall).IsHeld 1 l ∧ l.connection.inbox = [] ∧ l.unread = []) ∧
      ∀ r, (run sampleSetup sampleStall).RestsIn r → r = .requestText) ∧
    (∀ more, (∀ a ∈ more, a.LeavesStalled 1) →
      (run sampleSetup (sampleStall ++ more)).session.state = .connected ∧
        (run sampleSetup (sampleStall ++ more)).session.inFlight =
          some ⟨.named "listPrinter", .caller 1⟩ ∧
        ∀ q id, ¬ (run sampleSetup (sampleStall ++ more)).Awaits q id) ∧
    ¬ ∀ (setup : Setup Nat) (acts : List (Act Nat)), (run setup acts).stage = .running →
      (run setup acts).Quiescent →
      (∀ g l, (run setup acts).IsHeld g l → l.connection.inbox = [] ∧ l.unread = []) →
        ∃ r, r ≠ .loginText ∧ r ≠ .requestText ∧ (run setup acts).RestsIn r := by
  have hr : (run sampleSetup sampleStall).stage = .running := by decide +kernel
  have hheld : (run sampleSetup sampleStall).session.held = some 1 := by decide +kernel
  have hstep : (run sampleSetup sampleStall).step?.isNone = true := by decide +kernel
  have hlink : ((run sampleSetup sampleStall).linkStep? 1).isNone = true := by decide +kernel
  have hq : (run sampleSetup sampleStall).Quiescent := by
    refine quiescent_of_step?_eq_none (generations_run sampleSetup sampleStall) hr
      (Option.isNone_iff_eq_none.1 hstep) fun g hg => ?_
    obtain rfl := Option.some.inj (hheld.symm.trans hg)
    exact Option.isNone_iff_eq_none.1 hlink
  have hmap : ((run sampleSetup sampleStall).link? 1).map
      (fun l => (l.connection, l.unread, l.writeFault, l.stalled)) =
        some (⟨5000, .writing ⟨2, none, []⟩ (.caller 1), [], true, false⟩, [], none, true) := by
    decide +kernel
  obtain ⟨l, hl, heq⟩ := Option.map_eq_some_iff.1 hmap
  simp only [Prod.mk.injEq] at heq
  obtain ⟨hconnection, hunread, hfault, hstalled⟩ := heq
  have hsuspended : (run sampleSetup sampleStall).Suspended 1 ⟨.named "listPrinter", .caller 1⟩
      .connected :=
    ⟨hr, by decide +kernel, by decide +kernel, hq.notices, by decide +kernel, by decide +kernel,
      hheld, l, _, hl, by rw [hconnection], hfault, hstalled⟩
  have hrest : (run sampleSetup sampleStall).rest = .requestText := by decide +kernel
  refine ⟨⟨hr, hq, ⟨l, ⟨hheld, hl, by rw [hconnection]⟩, by rw [hconnection], hunread⟩,
    fun r h => h.eq_rest.trans hrest⟩, fun more hmore => ?_, fun hall => ?_⟩
  · have hstays := suspended_write_stays hsuspended hmore
    exact ⟨hstays.state, hstays.inFlight, hstays.not_awaits⟩
  · obtain ⟨r, -, hne, hrests⟩ := hall sampleSetup sampleStall hr hq fun g k hk => by
      obtain rfl := Option.some.inj (hheld.symm.trans hk.held)
      obtain rfl := Option.some.inj (hl.symm.trans hk.link)
      exact ⟨by rw [hconnection], hunread⟩
    exact hne (hrests.eq_rest.trans hrest)

end World

end PrintClient.Session
