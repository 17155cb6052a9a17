import Mathlib.Algebra.Group.Nat.Defs
import Mathlib.Data.List.GetD
import PrintClient.Proofs.Session.Backoff
import PrintClient.Proofs.Session.Links

/-!
# What a session adds to the time

A session reads the clock and adds to it on two occasions: when the text of a request has been
taken, how long its response may take, and when the next attempt is put off, for how long. A clock
shows less than some number of seconds, and what comes of an addition has to stay below another.

* `additions`: what a record tells of the additions;
* `World.WaitsUntil`, `exists_of_waitsUntil`: the session and its connections wait for nothing but
  what comes of an addition;
* `waitedFor`, `KeepsWithin`: how long a session waits in all, and delays that stay within a limit;
* `World.Paced`, `paced_run`: a session has waited for as long as its table says;
* `exists_putOff`, `Underway.exists_login`: runs in which an attempt is put off, and in which the
  text of the login is taken;
* `additions_lt_iff`: when all the additions of all runs stay below a bound;
* `StaysInRange`, `additions_stay_iff`: the bound that the clock sets.
-/

namespace PrintClient

/-! ### Delays in a row -/

/-- How long a session waits in all for its attempts after `k` teardowns in a row. -/
def waitedFor (backoff : List Nat) : Nat → Nat
  | 0 => 0
  | k + 1 => waitedFor backoff k + delayAfter backoff k

/-- The time for a response keeps within a limit, and so does each delay that there can be before
the limit itself has been waited for. -/
structure KeepsWithin (limit timeout : Nat) (backoff : List Nat) : Prop where
  timeout : timeout ≤ limit
  delays : ∀ k, waitedFor backoff k < limit → delayAfter backoff k ≤ limit

section Delays

variable {limit timeout : Nat} {backoff : List Nat}

theorem delayAfter_le (h : ∀ d ∈ backoff, d ≤ limit) (k : Nat) :
    delayAfter backoff k ≤ limit := by
  unfold delayAfter
  by_cases hk : min k (backoff.length - 1) < backoff.length
  · rw [List.getD_eq_getElem _ _ hk]
    exact h _ (List.getElem_mem hk)
  · rw [List.getD_eq_default _ _ (by omega)]
    exact Nat.zero_le limit

/-- It is enough that all the delays of the table keep within the limit. -/
theorem keepsWithin_of_forall (ht : timeout ≤ limit) (h : ∀ d ∈ backoff, d ≤ limit) :
    KeepsWithin limit timeout backoff :=
  ⟨ht, fun k _ => delayAfter_le h k⟩

theorem delayAfter_map_mul (unit k : Nat) :
    delayAfter (backoff.map (· * unit)) k = delayAfter backoff k * unit := by
  unfold delayAfter
  rw [List.length_map, List.getD_eq_getElem?_getD, List.getD_eq_getElem?_getD, List.getElem?_map]
  cases backoff[min k (backoff.length - 1)]? with
  | none => simp
  | some d => rfl

theorem waitedFor_map_mul (unit k : Nat) :
    waitedFor (backoff.map (· * unit)) k = waitedFor backoff k * unit := by
  induction k with
  | zero => simp [waitedFor]
  | succ k ih => rw [waitedFor, waitedFor, ih, delayAfter_map_mul, Nat.add_mul]

/-- It does not matter in which unit the times are told. -/
theorem keepsWithin_mul_iff {unit : Nat} (hunit : 0 < unit) :
    KeepsWithin (limit * unit) (timeout * unit) (backoff.map (· * unit)) ↔
      KeepsWithin limit timeout backoff := by
  constructor
  · rintro ⟨ht, hd⟩
    refine ⟨Nat.le_of_mul_le_mul_right ht hunit, fun k hk => ?_⟩
    have hdelay := hd k (by
      rw [waitedFor_map_mul]
      exact Nat.mul_lt_mul_of_pos_right hk hunit)
    rw [delayAfter_map_mul] at hdelay
    exact Nat.le_of_mul_le_mul_right hdelay hunit
  · rintro ⟨ht, hd⟩
    refine ⟨Nat.mul_le_mul_right unit ht, fun k hk => ?_⟩
    rw [waitedFor_map_mul] at hk
    rw [delayAfter_map_mul]
    exact Nat.mul_le_mul_right unit (hd k (Nat.lt_of_mul_lt_mul_right hk))

end Delays

/-! ### The range of the clock -/

/-- A clock shows fewer seconds than this. -/
def clockSeconds : Nat := 2 ^ 62

/-- A point in time is fewer seconds than this away from the first one. -/
def timeSeconds : Nat := 2 ^ 63

/-- Where the clock showed `base` at the start, what comes of an addition is a point in time, if the
clock could show the time of the addition at all. All is in milliseconds. -/
def StaysInRange (base : Nat) (a : Nat × Nat) : Prop :=
  base + a.1 < clockSeconds * 1000 → base + a.1 + a.2 < timeSeconds * 1000

/-! ### The slot of a connection -/

/-- A connection awaits the same response as before, or that to a request whose text has been
taken. -/
theorem Link.Move.slot?_cases {R E : Type} {l l' : Link R E} {now : Nat}
    {effects : List (Connection.Effect R E)} (h : l.Move now l' effects)
    {p : Connection.Pending R} (hp : l'.connection.slot? = some p) :
    l.connection.slot? = some p ∨ p.deadline = now + l.connection.timeout ∧
      .armed p.callbackId p.handler ∈ effects := by
  cases h with
  | talked phase _ step =>
    cases step with
    | subscribed =>
      left
      rw [Connection.slot?_of_talking phase]
      exact hp
    | givenUp => exact .inl hp
    | read => exact .inl hp
    | _ => cases hp
  | wrote phase step =>
    cases step with
    | armed =>
      right
      cases hp
      exact ⟨rfl, List.mem_singleton_self _⟩
    | _ => cases hp
  | _ => cases hp

namespace Session

variable {H : Type}

/-! ### Additions -/

/-- What is added to the time when something is recorded, if a response may take as long as
`timeout`. -/
def Event.addition? (timeout : Nat) : Event H → Option Nat
  | .armed .. => some timeout
  | .putOff delay => some delay
  | _ => none

/-- The additions of a record: the time, and what was added to it. -/
def additions (timeout : Nat) (trace : List (Nat × Event H)) : List (Nat × Nat) :=
  trace.filterMap fun p => (p.2.addition? timeout).map fun length => (p.1, length)

section Additions

variable {timeout now length : Nat} {trace more : List (Nat × Event H)}

theorem additions_append :
    additions timeout (trace ++ more) = additions timeout trace ++ additions timeout more :=
  List.filterMap_append

theorem mem_additions : (now, length) ∈ additions timeout trace ↔
    ∃ e, (now, e) ∈ trace ∧ e.addition? timeout = some length := by
  simp only [additions, List.mem_filterMap, Option.map_eq_some_iff, Prod.mk.injEq, Prod.exists]
  constructor
  · rintro ⟨_, e, hmem, _, hadds, rfl, rfl⟩
    exact ⟨e, hmem, hadds⟩
  · rintro ⟨e, hmem, hadds⟩
    exact ⟨now, e, hmem, length, hadds, rfl, rfl⟩

/-- What is due next was put off. -/
theorem mem_additions_of_dueIn {due : Nat} (h : dueIn trace = some due) :
    ∃ a ∈ additions timeout trace, a.1 + a.2 = due := by
  induction trace using List.reverseRecOn with
  | nil => cases h
  | append_singleton trace p ih =>
    rw [dueIn_append, List.foldl_cons, List.foldl_nil] at h
    obtain ⟨now, e⟩ := p
    have hkept : dueIn trace = some due →
        ∃ a ∈ additions timeout (trace ++ [(now, e)]), a.1 + a.2 = due := by
      intro hdue
      obtain ⟨a, hmem, hsum⟩ := ih hdue
      exact ⟨a, by rw [additions_append]; exact List.mem_append_left _ hmem, hsum⟩
    cases e with
    | putOff delay =>
      cases h
      exact ⟨(now, delay), mem_additions.2 ⟨.putOff delay, by simp, rfl⟩, rfl⟩
    | attempted => cases h
    | _ => exact hkept h

end Additions

namespace World

/-- The times that a session and its connections wait for: until then a response may come, or the
next attempt has been put off. -/
inductive WaitsUntil (w : World H) : Nat → Prop
  | response {g : Nat} {l : SessionLink H} {p : Connection.Pending (Reply H)}
      (link : w.link? g = some l) (slot : l.connection.slot? = some p) : WaitsUntil w p.deadline
  | attempt {due : Nat} (timer : w.session.reconnectAt = some due) : WaitsUntil w due

/-- The connection gives a response the time of the setup, and what it waits for comes of an
addition. -/
structure TimedBy (setup : Setup H) (trace : List (Nat × Event H)) (l : SessionLink H) : Prop where
  timeout : l.connection.timeout = setup.settings.requestTimeout
  slot : ∀ p, l.connection.slot? = some p →
    ∃ a ∈ additions setup.settings.requestTimeout trace, a.1 + a.2 = p.deadline

variable {setup : Setup H} {w w' : World H}

theorem TimedBy.append {trace : List (Nat × Event H)} {l : SessionLink H}
    (h : TimedBy setup trace l) (more : List (Nat × Event H)) :
    TimedBy setup (trace ++ more) l := by
  refine ⟨h.timeout, fun p hp => ?_⟩
  obtain ⟨a, hmem, hsum⟩ := h.slot p hp
  exact ⟨a, by rw [additions_append]; exact List.mem_append_left _ hmem, hsum⟩

theorem settings_run (setup : Setup H) (acts : List (Act H)) :
    (run setup acts).session.settings = setup.settings :=
  have hs : (run setup acts).Schedule setup (· ≤ ·) := schedule_run fun _ _ _ _ _ hle => hle
  hs.settings

theorem trace_hear (w : World H) (g : Nat) (l : SessionLink H)
    (effects : List (Connection.Effect (Reply H) String)) :
    ((w.setLink g l).hear g effects).trace =
      w.trace ++ (effects.filterMap (recordOf g)).map fun e => (w.clock, e) := by
  rcases (w.setLink g l).hear_cases g effects with ⟨-, hw⟩ | ⟨-, hw⟩ <;> rw [hw] <;> rfl

/-- A step of a connection records which text has been taken. -/
theorem timed_hear (h : ∀ g l, w.link? g = some l → TimedBy setup w.trace l) {g : Nat}
    {l l' : SessionLink H} {effects : List (Connection.Effect (Reply H) String)}
    (hl : w.link? g = some l) (hs : l.step? w.clock = some (l', effects)) :
    ∀ g' k, ((w.setLink g l').hear g effects).link? g' = some k →
      TimedBy setup ((w.setLink g l').hear g effects).trace k := by
  have hmove := Link.move_of_step? hs
  intro g' k hk
  rw [link?_hear, link?_setLink] at hk
  rw [trace_hear]
  split at hk
  · cases hk
    refine ⟨hmove.timeout.trans (h g l hl).timeout, fun p hp => ?_⟩
    rcases hmove.slot?_cases hp with hold | ⟨hdeadline, harmed⟩
    · exact ((h g l hl).append _).slot p hold
    · have hrecorded : .armed g p.callbackId ∈ effects.filterMap (recordOf g) :=
        List.mem_filterMap.2 ⟨_, harmed, rfl⟩
      refine ⟨(w.clock, setup.settings.requestTimeout),
        mem_additions.2 ⟨.armed g p.callbackId, ?_, rfl⟩, ?_⟩
      · exact List.mem_append_right _ (List.mem_map.2 ⟨_, hrecorded, rfl⟩)
      · rw [hdeadline, (h g l hl).timeout]
  · exact (h g' k hk).append _

/-- All connections of a run are timed by its setup. -/
theorem timed_run (setup : Setup H) (acts : List (Act H)) :
    ∀ g l, (run setup acts).link? g = some l → TimedBy setup (run setup acts).trace l := by
  refine run_induction (P := fun w => ∀ g l, w.link? g = some l → TimedBy setup w.trace l)
    (fun _ _ h => by cases h) (fun acts a ih => ?_) acts
  -- what the session does between acts of its connections adds to the record only
  have hgrows : ∀ w', (∃ more, w'.trace = (run setup acts).trace ++ more) →
      (run setup acts).KeepsLinks w' → ∀ g l, w'.link? g = some l → TimedBy setup w'.trace l := by
    rintro w' ⟨more, htrace⟩ hkeeps g l hl
    rw [htrace]
    rcases hkeeps g l hl with ⟨s, hs, rfl⟩ | ⟨k, hk, hkept⟩
    · refine ⟨?_, fun p hp => by cases hp⟩
      show s.settings.requestTimeout = _
      rw [hs, settings_run]
    · have htimed := (ih g k hk).append more
      exact ⟨hkept.timeout.trans htimed.timeout,
        fun p hp => htimed.slot p (hkept.slot?.symm.trans hp)⟩
  refine act_cases (P := fun w' => (∃ more, w'.trace = (run setup acts).trace ++ more) →
    ∀ g l, w'.link? g = some l → TimedBy setup w'.trace l) (run setup acts) a ?_ ?_ ?_
    (trace_act_of_run setup acts a)
  · rintro w' hsame ⟨more, htrace⟩ g l hl
    have hconnection := hsame.connections g
    rw [hl, Option.map_some] at hconnection
    obtain ⟨k, hk, hck⟩ := Option.map_eq_some_iff.1 hconnection.symm
    have htimed := (ih g k hk).append more
    rw [← htrace] at htimed
    exact ⟨hck ▸ htimed.timeout, fun p hp => htimed.slot p (hck ▸ hp)⟩
  · exact fun w' hstep htrace => hgrows w' htrace hstep.keepsLinks
  · exact fun g l l' effects hl hs _ => timed_hear ih hl hs

/-- **A session and its connections wait for nothing but what comes of an addition.** -/
theorem exists_of_waitsUntil {acts : List (Act H)} {time : Nat}
    (h : (run setup acts).WaitsUntil time) :
    ∃ a ∈ additions setup.settings.requestTimeout (run setup acts).trace, a.1 + a.2 = time := by
  cases h with
  | response link slot => exact (timed_run setup acts _ _ link).slot _ slot
  | attempt timer =>
    have hs : (run setup acts).Schedule setup (· ≤ ·) := schedule_run fun _ _ _ _ _ hle => hle
    have hr := ((generations_run setup acts).timer.1 (by simp [timer])).2
    rw [hs.timer (by simp [hr])] at timer
    exact mem_additions_of_dueIn timer

/-! ### Delays that were waited for -/

/-- A session that has failed a number of times in a row has waited for the delays, or is about to;
whenever an attempt was put off, all the delays before were over. -/
structure Paced (setup : Setup H) (w : World H) : Prop where
  waited : w.stage ≠ .ended → waitedFor setup.settings.backoff w.session.failures ≤
    w.session.reconnectAt.getD w.clock
  delays : ∀ now delay, (now, .putOff delay) ∈ w.trace → ∃ k,
    delay = delayAfter setup.settings.backoff k ∧ waitedFor setup.settings.backoff k ≤ now

variable {o : Outcome H}

theorem Paced.waited_of_turn (h : w.Paced setup) (hg : w.Generations)
    (hs : w.session.settings = setup.settings) (hr : w.stage ≠ .ended) (hturn : w.Turn o)
    (hstage : o.stage ≠ .ended) : waitedFor setup.settings.backoff o.session.failures ≤
      o.session.reconnectAt.getD w.clock := by
  have hwaited := h.waited hr
  cases hturn with
  | attempt _ time =>
    show waitedFor _ w.session.failures ≤ w.clock
    rcases time with hstart | ⟨-, hdue⟩
    · rw [hg.reconnectAt_of_starting hstart] at hwaited
      exact hwaited
    · obtain ⟨due, htimer, hle⟩ := isDue_iff.1 hdue
      rw [htimer] at hwaited
      exact Nat.le_trans hwaited hle
  | stop => exact absurd rfl hstage
  | accept => exact Nat.zero_le _
  | tearDown held =>
    rw [hg.reconnectAt_of_held held] at hwaited
    show waitedFor _ w.session.failures + delayAfter _ _ ≤ w.clock + retryDelay _ _
    rw [retryDelay_eq, hs]
    exact Nat.add_le_add_right hwaited _
  | _ => exact hwaited

/-- An attempt is put off by the delay of the table. -/
theorem Turn.putOff_eq (hturn : w.Turn o) (htook : w.Took w' o) {delay : Nat}
    (hmem : .putOff delay ∈ o.events) :
    (∃ g, w.session.held = some g) ∧
      delay = delayAfter w.session.settings.backoff w.session.failures := by
  obtain ⟨g, failure, ht⟩ := hturn.tearsDown_of_mem htook hmem rfl
  obtain ⟨es, hidle, hes⟩ := w.session.teardown_eq failure
  have hevents : o.events = w.session.teardown failure :=
    List.append_cancel_left (htook.history.symm.trans ht.history)
  rw [hevents, hes, List.mem_append, List.mem_singleton] at hmem
  rcases hmem with hmem | hmem
  · cases hidle _ hmem
  · cases hmem
    exact ⟨⟨g, ht.held⟩, rfl⟩

/-- **Every session waits for as long as its table says.** -/
theorem paced_run (setup : Setup H) (acts : List (Act H)) : (run setup acts).Paced setup := by
  refine run_induction ?_ (fun acts a ih => ?_) acts
  · obtain ⟨subscriptions, hs⟩ := setup.session_eq
    rw [hs]
    exact ⟨fun _ => Nat.zero_le _, fun _ _ hmem => (List.not_mem_nil hmem).elim⟩
  have hg := generations_run setup acts
  rcases act_cases_of_run setup acts a with haside | ⟨-, hr, o, hturn, htook⟩
  · refine ⟨fun hstage => ?_, fun now delay hmem => ?_⟩
    · rw [haside.session, haside.clock]
      refine Nat.le_trans (ih.waited (haside.stage ▸ hstage)) ?_
      cases (run setup acts).session.reconnectAt with
      | none => exact Nat.le_add_right _ _
      | some due => exact Nat.le_refl due
    · obtain ⟨es, hown, htrace⟩ := haside.trace
      rw [htrace, List.mem_append] at hmem
      rcases hmem with hmem | hmem
      · exact ih.delays now delay hmem
      · obtain ⟨e, he, heq⟩ := List.mem_map.1 hmem
        cases heq
        cases hown _ he
  · refine ⟨fun hstage => ?_, fun now delay hmem => ?_⟩
    · rw [htook.session.failures, htook.session.reconnectAt, htook.clock]
      exact ih.waited_of_turn hg (settings_run setup acts) hr hturn (htook.stage ▸ hstage)
    · rw [htook.trace, List.mem_append] at hmem
      rcases hmem with hmem | hmem
      · exact ih.delays now delay hmem
      · obtain ⟨e, he, heq⟩ := List.mem_map.1 hmem
        cases heq
        obtain ⟨⟨g, hheld⟩, hdelay⟩ := hturn.putOff_eq htook he
        have hwaited := ih.waited hr
        rw [hg.reconnectAt_of_held hheld] at hwaited
        exact ⟨_, settings_run setup acts ▸ hdelay, hwaited⟩

/-! ### Attempts that fail -/

theorem act_offer {g : Nat} {l : SessionLink H} (hl : w.link? g = some l)
    (outcome : Except Failure Unit) :
    w.act (.offer g outcome) = w.setLink g (l.offer outcome) := by
  simp [act, updateLink, hl]

theorem act_linkStep {g : Nat} {l l' : SessionLink H}
    {effects : List (Connection.Effect (Reply H) String)} (hl : w.link? g = some l)
    (hs : l.step? w.clock = some (l', effects)) :
    w.act (.linkStep g) = (w.setLink g l').hear g effects := by
  simp [act, linkStep?, hl, hs]

/-- A session that can be reached, with nothing left in its channels and no request on its way. -/
structure Idle (w : World H) : Prop where
  stage : w.stage = .running
  cancelled : w.cancelled = false
  handles : w.handles ≠ 0
  commands : w.commands = []
  notices : w.notices = []
  inFlight : w.session.inFlight = none

/-- A connection has been sent on its way, and nothing has happened since. -/
structure Underway (w : World H) (g : Nat) : Prop where
  idle : w.Idle
  held : w.session.held = some g
  generation : w.session.generation = g
  link : ∃ s : Session H, w.link? g = some (.new (freshConnection s))

/-- The link of a new connection when the way to the server has ended. -/
def arrived (s : Session H) (outcome : Except Failure Unit)
    (phase : Connection.Phase (Reply H) String) : SessionLink H :=
  ⟨{ freshConnection s with phase }, some outcome, [], none, false⟩

/-- The way to the server ends with a failure, of which the session is told. -/
def refusal (g : Nat) (failure : Failure) : List (Act H) :=
  [.offer g (.error failure), .linkStep g, .step]

section Attempts

variable {g : Nat}

/-- An attempt comes to its end, and the connection tells of it. -/
theorem Underway.tells (h : w.Underway g) (outcome : Except Failure Unit)
    (phase : Connection.Phase (Reply H) String) (notice : Notice)
    {effect : Connection.Effect (Reply H) String}
    (hs : ∀ s : Session H,
      (arrived s outcome .opening).step? w.clock = some (arrived s outcome phase, [effect]))
    (hrecord : recordOf g effect = none) (hnotice : noticeOf effect = some notice) :
    ∃ s links, links.lookup g = some (arrived s outcome phase) ∧
      w.all [.offer g outcome, .linkStep g] = { w with links, notices := [(g, notice)] } := by
  obtain ⟨s, hl⟩ := h.link
  have hoffered : (w.setLink g (arrived s outcome .opening)).link? g =
      some (arrived s outcome .opening) := by
    rw [link?_setLink, if_pos rfl]
  refine ⟨s, ((w.setLink g (arrived s outcome .opening)).setLink g (arrived s outcome phase)).links,
    (link?_setLink _ _ _ _).trans (if_pos rfl), ?_⟩
  have hoffer : w.act (.offer g outcome) = w.setLink g (arrived s outcome .opening) :=
    act_offer hl outcome
  show (w.act (.offer g outcome)).act (.linkStep g) = _
  rw [hoffer, act_linkStep hoffered (hs s)]
  simp [hear, setLink, note, hrecord, hnotice, h.idle.stage, h.idle.notices]

/-- The session takes up the only notice. -/
theorem Idle.step_heed (h : w.Idle) {links : List (Nat × SessionLink H)} {notice : Notice} :
    ({ w with links, notices := [(w.session.generation, notice)] } : World H).act .step =
      ({ w with links } : World H).heed notice := by
  have hnotices : ({ w with links } : World H) = { w with links, notices := [] } := by
    rw [← h.notices]
  rw [hnotices]
  simp [act, step?, runStep?, h.stage, h.cancelled, h.commands, h.handles]

/-- The way to the server ends with a failure, and the session puts the next attempt off. -/
theorem Underway.refused (h : w.Underway g) (failure : Failure) :
    ∃ links es, w.all (refusal g failure) =
      { w with
        links
        session := w.session.tornDown w.clock
        trace := w.trace ++ es ++
          [(w.clock, .putOff (delayAfter w.session.settings.backoff w.session.failures))] } := by
  obtain ⟨s, links, -, hw⟩ := h.tells (.error failure) .closing (.failed failure) (fun _ => rfl)
    rfl rfl
  obtain ⟨links', -, hfail⟩ := ({ w with links } : World H).fail_eq failure
  obtain ⟨es, -, hes⟩ := w.session.teardown_eq failure
  refine ⟨links', es.map fun e => (w.clock, e), ?_⟩
  show (w.all [.offer g (.error failure), .linkStep g]).act .step = _
  rw [hw, ← h.generation, h.idle.step_heed]
  show ({ w with links } : World H).fail failure = _
  rw [hfail]
  simp [note, hes]

/-- An idle session sends a new connection on its way. -/
theorem Idle.underway_connect (h : w.Idle) (hclosed : w.AllClosed) :
    w.connect.Underway (w.session.generation + 1) := by
  refine ⟨?_, ?_, ?_, w.session, by rw [hclosed.link?_connect, if_pos rfl]⟩
  · rw [connect_eq]
    exact ⟨h.stage, h.cancelled, h.handles, h.commands, h.notices, h.inFlight⟩
  · rw [connect_eq]
    rfl
  · rw [connect_eq]
    rfl

/-- The first attempt. -/
theorem underway_first (setup : Setup H) : (run setup [.step]).Underway 1 ∧
    (run setup [.step]).clock = 0 ∧ (run setup [.step]).session.failures = 0 := by
  have hg := generations_start setup
  have hclosed := hg.allClosed (hg.held_of_starting rfl)
  obtain ⟨subscriptions, hs⟩ := setup.session_eq
  have hidle : ({ start setup.session with stage := .running } : World H).Idle := by
    rw [hs]
    exact ⟨rfl, rfl, Nat.one_ne_zero, rfl, rfl, rfl⟩
  have hunderway := hidle.underway_connect ⟨hclosed.closed, hclosed.notices, hclosed.writes⟩
  have hfields : setup.session.generation = 0 ∧ setup.session.failures = 0 := by
    rw [hs]
    exact ⟨rfl, rfl⟩
  have hstep : run setup [.step] =
      ({ start setup.session with stage := .running } : World H).connect := rfl
  rw [hstep]
  refine ⟨?_, rfl, hfields.2⟩
  have hgeneration : setup.session.generation + 1 = 1 := by rw [hfields.1]
  exact hgeneration ▸ hunderway

/-- The world of a session whose attempt has failed, once the delay is over. -/
def delayed (w : World H) (links : List (Nat × SessionLink H)) (es : List (Nat × Event H))
    (delay : Nat) : World H :=
  { w with
    clock := w.clock + delay
    links
    session := w.session.tornDown w.clock
    trace := w.trace ++ es ++ [(w.clock, .putOff delay)] }

/-- The timer is stopped. -/
def timerStopped (w : World H) : World H :=
  { w with session := { w.session with reconnectAt := none } }

/-- When the delay is over the session tries again. -/
theorem Underway.again {acts : List (Act H)} (h : (run setup acts).Underway g)
    (failure : Failure) :
    ∃ more, (run setup (acts ++ more)).Underway (g + 2) ∧
      (run setup (acts ++ more)).session.failures = (run setup acts).session.failures + 1 ∧
      (run setup (acts ++ more)).clock = (run setup acts).clock +
        delayAfter (run setup acts).session.settings.backoff (run setup acts).session.failures := by
  obtain ⟨links, es, hrefused⟩ := h.refused failure
  generalize hdelay : delayAfter (run setup acts).session.settings.backoff
    (run setup acts).session.failures = delay at hrefused ⊢
  have hpast : run setup (acts ++ refusal g failure ++ [.elapse delay]) =
      (run setup acts).delayed links es delay := by
    rw [run_concat, run_append, hrefused]
    rfl
  have hlast : run setup (acts ++ refusal g failure ++ [.elapse delay] ++ [.step]) =
      ((run setup acts).delayed links es delay).timerStopped.connect := by
    rw [run_concat, hpast]
    simp [act, step?, runStep?, isDue, delayed, timerStopped, tornDown, retryDelay_eq, hdelay,
      h.idle.stage, h.idle.cancelled, h.idle.commands, h.idle.handles, h.idle.notices]
  have hidle : ((run setup acts).delayed links es delay).timerStopped.Idle :=
    ⟨h.idle.stage, h.idle.cancelled, h.idle.handles, h.idle.commands, h.idle.notices, rfl⟩
  have hg := generations_run setup (acts ++ refusal g failure ++ [.elapse delay])
  rw [hpast] at hg
  have hclosed := hg.allClosed rfl
  have hunderway := hidle.underway_connect ⟨hclosed.closed, hclosed.notices, hclosed.writes⟩
  have hgeneration : (run setup acts).session.generation + 1 + 1 = g + 2 := by rw [h.generation]
  refine ⟨refusal g failure ++ [.elapse delay] ++ [.step], ?_⟩
  rw [← List.append_assoc, ← List.append_assoc, hlast]
  exact ⟨hgeneration ▸ hunderway, rfl, rfl⟩


/-- After any number of failures in a row there can be one more attempt, as soon as the delays are
over. -/
theorem exists_underway (setup : Setup H) (k : Nat) :
    ∃ acts g, (run setup acts).Underway g ∧ (run setup acts).session.failures = k ∧
      (run setup acts).clock = waitedFor setup.settings.backoff k := by
  induction k with
  | zero =>
    obtain ⟨hunderway, hclock, hfailures⟩ := underway_first setup
    exact ⟨_, 1, hunderway, hfailures, hclock⟩
  | succ k ih =>
    obtain ⟨acts, g, hunderway, hfailures, hclock⟩ := ih
    obtain ⟨more, hagain, hnext, hlater⟩ :=
      hunderway.again (.connect setup.endpoint.host setup.endpoint.port "")
    rw [settings_run, hfailures, hclock] at hlater
    exact ⟨acts ++ more, g + 2, hagain, by rw [hnext, hfailures], hlater⟩

/-- An attempt is put off after any number of failures in a row, at a time when the delays before
are over. -/
theorem exists_putOff (setup : Setup H) (timeout k : Nat) :
    ∃ acts, (waitedFor setup.settings.backoff k, delayAfter setup.settings.backoff k) ∈
      additions timeout (run setup acts).trace := by
  obtain ⟨acts, g, hunderway, hfailures, hclock⟩ := exists_underway setup k
  obtain ⟨links, es, hrefused⟩ := hunderway.refused (setup.endpoint.unreachable "")
  refine ⟨acts ++ refusal g (setup.endpoint.unreachable ""), mem_additions.2
    ⟨.putOff (delayAfter setup.settings.backoff k), ?_, rfl⟩⟩
  rw [run_append, hrefused, settings_run, hfailures, hclock]
  simp

/-! ### A login that is taken -/

theorem clock_hear (w : World H) (g : Nat) (l : SessionLink H)
    (effects : List (Connection.Effect (Reply H) String)) :
    ((w.setLink g l).hear g effects).clock = w.clock := by
  rcases (w.setLink g l).hear_cases g effects with ⟨-, hw⟩ | ⟨-, hw⟩ <;> rw [hw] <;> rfl

/-- While its transport takes all, an open connection writes a request when it has taken the
commands before it, and the time for the response begins. -/
theorem exists_armed {g : Nat} {l : SessionLink H} {t : Connection.Talk (Reply H) String}
    (names : List String) (q : Queued H) (hl : w.link? g = some l)
    (hphase : l.connection.phase = .talking t) (hlive : l.connection.cancelled = false)
    (hfree : t.pending = none) (hwritable : l.writeFault = none) (hflowing : l.stalled = false)
    (hinbox : l.connection.inbox =
      (names.map fun name => .subscribe name name) ++ [.send q.request q.reply]) :
    ∃ acts id, (w.clock, .armed g id) ∈ (w.all acts).trace := by
  induction names generalizing w l t with
  | nil =>
    refine ⟨[.linkStep g, .linkStep g], t.lastId + 1, ?_⟩
    have hwrites : ∃ l', l.step? w.clock =
          some (l', [.wrote (t.lastId + 1) q.request q.reply]) ∧
        l'.connection.phase = .writing { t with lastId := t.lastId + 1 } q.reply ∧
        l'.writeFault = none ∧ l'.stalled = false := by
      simp [Link.step?, hphase, hlive, Link.talkStep?, hinbox, Link.after, Connection.takeCommand,
        Connection.write, hfree, hwritable, hflowing]
    obtain ⟨l', hs, hwriting, hwritable', hflowing'⟩ := hwrites
    -- The time for the response begins a step later.
    have hl' : (w.act (.linkStep g)).link? g = some l' := by
      rw [act_linkStep hl hs, link?_hear, link?_setLink, if_pos rfl]
    have hclock : (w.act (.linkStep g)).clock = w.clock := by
      rw [act_linkStep hl hs, clock_hear]
    have htakes : ∃ l'', l'.step? (w.act (.linkStep g)).clock =
        some (l'', [.armed (t.lastId + 1) q.reply]) := by
      simp [Link.step?, hwriting, Link.writeStep?, hwritable', hflowing', Link.after,
        Connection.arm]
    obtain ⟨l'', hs'⟩ := htakes
    show _ ∈ ((w.act (.linkStep g)).act (.linkStep g)).trace
    rw [act_linkStep hl' hs', trace_hear, ← hclock]
    exact List.mem_append_right _ (List.mem_singleton_self _)
  | cons name names ih =>
    have hs : ∃ l' t', l.step? w.clock = some (l', []) ∧ l'.connection.phase = .talking t' ∧
        l'.connection.cancelled = false ∧ t'.pending = none ∧ l'.writeFault = none ∧
        l'.stalled = false ∧ l'.connection.inbox =
          (names.map fun name => .subscribe name name) ++ [.send q.request q.reply] := by
      simp [Link.step?, hphase, hlive, Link.talkStep?, hinbox, Link.after, Connection.takeCommand,
        hfree, hwritable, hflowing]
    obtain ⟨l', t', hs, hphase', hlive', hfree', hwritable', hflowing', hinbox'⟩ := hs
    have hl' : ((w.setLink g l').hear g []).link? g = some l' := by
      rw [link?_hear, link?_setLink, if_pos rfl]
    obtain ⟨acts, id, hmem⟩ := ih hl' hphase' hlive' hfree' hwritable' hflowing' hinbox'
    rw [clock_hear, ← act_linkStep hl hs] at hmem
    exact ⟨.linkStep g :: acts, id, hmem⟩

/-- A free connection gets the request at the head of the queue. -/
theorem link?_advance {g : Nat} {l : SessionLink H} {t : Connection.Talk (Reply H) String}
    {q : Queued H} {rest : List (Queued H)} (hi : w.session.inFlight = none)
    (hheld : w.session.held = some g) (hq : w.session.queue = q :: rest)
    (hm : w.session.maySend q = true) (hl : w.link? g = some l) (hfree : l.connection.IsFree t) :
    w.advance.clock = w.clock ∧ w.advance.link? g = some { l with connection := { l.connection with
      busy := true
      inbox := l.connection.inbox ++ [.send q.request q.reply] } } := by
  rw [advance_of_isFree hi hheld hq hm hl hfree]
  exact ⟨rfl, (link?_setLink w g g _).trans (if_pos rfl)⟩

/-- When the connection is open the session hands it the login, whose text is taken. -/
theorem Underway.exists_login (h : w.Underway g) :
    ∃ acts id, (w.clock, .armed g id) ∈ (w.all acts).trace := by
  obtain ⟨s, links, hl, hopened⟩ :=
    h.tells (.ok ()) (.talking .start) .handshaked (fun _ => rfl) rfl rfl
  have hgreet : w.all [.offer g (.ok ()), .linkStep g, .step] =
      ({ w with links } : World H).greet := by
    show (w.all [.offer g (.ok ()), .linkStep g]).act .step = _
    rw [hopened, ← h.generation, h.idle.step_heed]
    rfl
  have hfree : (arrived s (.ok ()) (.talking .start)).connection.IsFree .start := by
    refine ⟨rfl, rfl, ?_, rfl⟩
    simp [Connection.requests, arrived, freshConnection, Connection.Command.request?]
  have hhanded : ({ w with links } : World H).greet.clock = w.clock ∧
      ({ w with links } : World H).greet.link? g = some { arrived s (.ok ()) (.talking .start) with
        connection := { (arrived s (.ok ()) (.talking .start)).connection with
          busy := true
          inbox := (arrived s (.ok ()) (.talking .start)).connection.inbox ++
            [.send w.session.loginEntry.request w.session.loginEntry.reply] } } := by
    rw [greet_eq]
    exact link?_advance h.idle.inFlight h.held rfl rfl hl hfree
  obtain ⟨hclock, hlink⟩ := hhanded
  obtain ⟨acts, id, hmem⟩ := exists_armed (s.subscriptions.map Prod.fst) w.session.loginEntry
    hlink rfl rfl rfl rfl rfl (by simp [arrived, freshConnection])
  rw [hclock, ← hgreet] at hmem
  refine ⟨[.offer g (.ok ()), .linkStep g, .step] ++ acts, id, ?_⟩
  rw [all, List.foldl_append]
  exact hmem

end Attempts

/-! ### Additions that stay in range -/

/-- **All the additions of all runs that start below a limit stay below its double exactly if the
times of the setup keep within the limit.** -/
theorem additions_lt_iff (setup : Setup H) {limit : Nat} (hlimit : 0 < limit) :
    (∀ base acts, ∀ a ∈ additions setup.settings.requestTimeout (run setup acts).trace,
      base + a.1 < limit → base + a.1 + a.2 < 2 * limit) ↔
    KeepsWithin limit setup.settings.requestTimeout setup.settings.backoff := by
  constructor
  · intro h
    refine ⟨?_, fun k hk => ?_⟩
    · obtain ⟨hunderway, hstart, -⟩ := underway_first setup
      obtain ⟨acts, id, harmed⟩ := hunderway.exists_login
      rw [hstart] at harmed
      have hstays := h (limit - 1) ([.step] ++ acts) (0, setup.settings.requestTimeout)
        (mem_additions.2 ⟨.armed 1 id, by rw [run_append]; exact harmed, rfl⟩)
      dsimp only at hstays
      omega
    · obtain ⟨acts, hmem⟩ := exists_putOff setup setup.settings.requestTimeout k
      have hstays := h (limit - 1 - waitedFor setup.settings.backoff k) acts _ hmem
      dsimp only at hstays
      omega
  · rintro ⟨htimeout, hdelays⟩ base acts ⟨now, length⟩ hmem hnow
    suffices hlength : length ≤ limit by
      dsimp only at hnow ⊢
      omega
    obtain ⟨e, he, hadds⟩ := mem_additions.1 hmem
    cases e with
    | armed =>
      cases hadds
      exact htimeout
    | putOff delay =>
      cases hadds
      obtain ⟨k, rfl, hwaited⟩ := (paced_run setup acts).delays now _ he
      refine hdelays k ?_
      dsimp only at hnow
      omega
    | _ => cases hadds

/-- The additions stay in range if the times of the setup keep within what a clock can show. -/
theorem additions_stay_iff (setup : Setup H) :
    (∀ base acts, ∀ a ∈ additions setup.settings.requestTimeout (run setup acts).trace,
      StaysInRange base a) ↔
    KeepsWithin (clockSeconds * 1000) setup.settings.requestTimeout setup.settings.backoff := by
  have hdouble : timeSeconds * 1000 = 2 * (clockSeconds * 1000) := by decide
  rw [← additions_lt_iff setup (by decide), ← hdouble]
  rfl

end World

end Session

end PrintClient
