import PrintClient.Proofs.Session.Operations

/-!
# The state, the queue and the request on its way

The state that a session publishes decides what its queue and the slot for the request on its way
can hold. Before the connection is open nothing is on its way; the session's own request stands
before all others and is there only while the login is awaited; after it only callers' requests are
left.

* `CallersOnly`: a queue without the session's own request;
* `Coherent`: the invariant, by the state of the session;
* `Coherent.advance`, `tornDown`, `greet`, `loggedIn`, `answered`, `enqueue`: what each operation
  makes of it.
-/

namespace PrintClient.Session

variable {H : Type}

/-- The queue holds requests of callers only. -/
def CallersOnly (queue : List (Queued H)) : Prop := ∀ q ∈ queue, q.isLogin = false

theorem callersOnly_callerEntries (queue : List (Queued H)) :
    CallersOnly (callerEntries queue) := by
  intro q hq
  have := (List.mem_filter.1 hq).2
  simpa using this

/-- What the state of a session says about its queue and about the request on its way. -/
inductive Coherent (s : Session H) : Prop
  /-- No connection is open. -/
  | apart (state : s.state = .disconnected ∨ s.state = .connecting) (inFlight : s.inFlight = none)
      (queue : CallersOnly s.queue)
  /-- The login is on its way. -/
  | greeting (state : s.state = .awaitingLogin) (inFlight : s.inFlight = some s.loginEntry)
      (queue : CallersOnly s.queue)
  /-- The connection has not taken the login. -/
  | stalled {rest : List (Queued H)} (state : s.state = .awaitingLogin)
      (inFlight : s.inFlight = none) (queue : s.queue = s.loginEntry :: rest)
      (callers : CallersOnly rest)
  /-- Only requests of callers go out. -/
  | connected (state : s.state = .connected)
      (inFlight : ∀ q, s.inFlight = some q → q.isLogin = false) (queue : CallersOnly s.queue)

namespace Coherent

variable {s s' : Session H}

/-- Nothing else of a session matters. -/
theorem congr (h : Coherent s) (hendpoint : s'.endpoint = s.endpoint) (hstate : s'.state = s.state)
    (hinFlight : s'.inFlight = s.inFlight) (hqueue : s'.queue = s.queue) : Coherent s' := by
  have hentry : s'.loginEntry = s.loginEntry := by rw [loginEntry, loginEntry, hendpoint]
  cases h with
  | apart state inFlight queue =>
    exact .apart (by rwa [hstate]) (by rwa [hinFlight]) (by rwa [hqueue])
  | greeting state inFlight queue =>
    exact .greeting (by rwa [hstate]) (by rwa [hinFlight, hentry]) (by rwa [hqueue])
  | stalled state inFlight queue callers =>
    exact .stalled (by rwa [hstate]) (by rwa [hinFlight]) (by rwa [hqueue, hentry]) callers
  | connected state inFlight queue =>
    exact .connected (by rwa [hstate]) (by rwa [hinFlight]) (by rwa [hqueue])

theorem apart_of_state (h : Coherent s) (hs : s.state = .disconnected ∨ s.state = .connecting) :
    s.inFlight = none ∧ CallersOnly s.queue := by
  cases h with
  | apart _ inFlight queue => exact ⟨inFlight, queue⟩
  | greeting state => rcases hs with hs | hs <;> rw [hs] at state <;> cases state
  | stalled state => rcases hs with hs | hs <;> rw [hs] at state <;> cases state
  | connected state => rcases hs with hs | hs <;> rw [hs] at state <;> cases state

/-- Only the login is on its way before the session is logged in. -/
theorem of_login (h : Coherent s) {q : Queued H} (hi : s.inFlight = some q)
    (hl : q.isLogin = true) :
    s.state = .awaitingLogin ∧ q = s.loginEntry ∧ CallersOnly s.queue := by
  cases h with
  | apart _ inFlight => rw [hi] at inFlight; cases inFlight
  | greeting state inFlight queue =>
    rw [hi] at inFlight
    exact ⟨state, Option.some.inj inFlight, queue⟩
  | stalled _ inFlight => rw [hi] at inFlight; cases inFlight
  | connected _ inFlight => rw [inFlight q hi] at hl; cases hl

/-- Requests of callers are on their way only while the session is logged in. -/
theorem of_caller (h : Coherent s) {q : Queued H} (hi : s.inFlight = some q)
    (hl : q.isLogin = false) : s.state = .connected ∧ CallersOnly s.queue := by
  cases h with
  | apart _ inFlight => rw [hi] at inFlight; cases inFlight
  | greeting _ inFlight =>
    rw [hi] at inFlight
    rw [Option.some.inj inFlight] at hl
    cases hl
  | stalled _ inFlight => rw [hi] at inFlight; cases inFlight
  | connected state _ queue => exact ⟨state, queue⟩

/-- The login stands at the head of the queue while it is awaited, and only then. -/
theorem isLogin_head (h : Coherent s) {q : Queued H} {rest : List (Queued H)}
    (hi : s.inFlight = none) (hq : s.queue = q :: rest) :
    q.isLogin = true ↔ s.state = .awaitingLogin := by
  cases h with
  | apart state _ queue =>
    have hcaller := queue q (by simp [hq])
    rcases state with state | state <;> simp [state, hcaller]
  | greeting _ inFlight => rw [hi] at inFlight; cases inFlight
  | stalled state _ queue =>
    rw [hq] at queue
    obtain ⟨rfl, -⟩ := List.cons.inj queue
    exact ⟨fun _ => state, fun _ => rfl⟩
  | connected state _ queue =>
    have hcaller := queue q (by simp [hq])
    simp [state, hcaller]

/-- While nothing may go out the queue waits. -/
theorem maySend (h : Coherent s) {q : Queued H} {rest : List (Queued H)} (hi : s.inFlight = none)
    (hq : s.queue = q :: rest) :
    s.maySend q = true ↔ s.state = .awaitingLogin ∨ s.state = .connected := by
  rw [Session.maySend, Bool.or_eq_true, h.isLogin_head hi hq, decide_eq_true_iff]

/-- A request that goes out leaves the queue. -/
theorem handOver (h : Coherent s) {q : Queued H} {rest : List (Queued H)} (hi : s.inFlight = none)
    (hq : s.queue = q :: rest) (hm : s.maySend q = true) :
    Coherent { s with queue := rest, inFlight := some q } := by
  cases h with
  | apart state inFlight queue =>
    have := (Coherent.apart state inFlight queue).maySend hi hq
    rcases state with state | state <;> simp [this, state] at hm
  | greeting _ inFlight => rw [hi] at inFlight; cases inFlight
  | stalled state _ queue callers =>
    rw [hq] at queue
    obtain ⟨rfl, rfl⟩ := List.cons.inj queue
    exact .greeting state rfl callers
  | connected state _ queue =>
    refine .connected state ?_ fun q' hq' => queue q' (by rw [hq]; exact List.mem_cons_of_mem q hq')
    rintro _ ⟨⟩
    exact queue q (by simp [hq])

theorem advance {w : World H} (h : Coherent w.session) : Coherent w.advance.session := by
  rcases w.advance_cases with hw | ⟨g, l, q, rest, hi, -, hq, hm, -, hw⟩ <;> rw [hw]
  · exact h
  · exact h.handOver hi hq hm

/-- A teardown leaves the callers' requests in the queue. -/
theorem tornDown (s : Session H) (now : Nat) : Coherent (s.tornDown now) :=
  .apart (.inl rfl) rfl (callersOnly_callerEntries s.queue)

theorem ended (s : Session H) : Coherent s.ended :=
  .apart (.inl rfl) rfl (by simp [CallersOnly, Session.ended])

/-- The login goes before all that waits. -/
theorem greet (h : Coherent s) (hs : s.state = .connecting) :
    Coherent { s with state := .awaitingLogin, queue := s.loginEntry :: s.queue } :=
  .stalled rfl (h.apart_of_state (.inr hs)).1 rfl (h.apart_of_state (.inr hs)).2

/-- The login was accepted. -/
theorem loggedIn (h : Coherent s) {q : Queued H} (hi : s.inFlight = some q)
    (hl : q.isLogin = true) :
    Coherent { s with inFlight := none, failures := 0, state := .connected } :=
  .connected rfl (by simp) (h.of_login hi hl).2.2

/-- A caller's request was answered. -/
theorem answered (h : Coherent s) {q : Queued H} (hi : s.inFlight = some q)
    (hl : q.isLogin = false) : Coherent { s with inFlight := none } :=
  .connected (h.of_caller hi hl).1 (by simp) (h.of_caller hi hl).2

/-- A caller's request goes behind all that waits. -/
theorem enqueue (h : Coherent s) (request : Request) (handler : H) :
    Coherent (s.enqueue request handler) := by
  have hmore : ∀ {queue : List (Queued H)}, CallersOnly queue →
      CallersOnly (queue ++ [⟨request, .caller handler⟩]) := by
    intro queue hq q hmem
    rcases List.mem_append.1 hmem with hmem | hmem
    · exact hq q hmem
    · rw [List.mem_singleton.1 hmem]
      rfl
  cases h with
  | apart state inFlight queue => exact .apart state inFlight (hmore queue)
  | greeting state inFlight queue => exact .greeting state inFlight (hmore queue)
  | stalled state inFlight queue callers =>
    exact .stalled state inFlight (by rw [Session.enqueue, queue]; rfl) (hmore callers)
  | connected state inFlight queue => exact .connected state inFlight (hmore queue)

end Coherent

end PrintClient.Session
