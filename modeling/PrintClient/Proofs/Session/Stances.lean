import PrintClient.Proofs.Session.Coherence
import PrintClient.Proofs.Session.Ledger

/-!
# Where a session and its connection stand

A session, the connection that it holds and the notices between the two act at different times. What
one of them has done and the other has not yet seen is told by a `Stance`: for instance the session
still has a request on its way that the connection has been answered, and the answer is in the
channel of notices.

* `news`, `tidings`: the notices of a connection that are not about events;
* `Reads`: a record in which nothing more is written;
* `Stance`: how the session, the record, the connection and its news go together;
* `Stance.mono`: what it does not depend on;
* `Stance.hear`: a step of the connection leads from one stance to another;
* `Stance.recorded`: what such a step writes;
* `Poised`: the next request can be handed over, as the session finds when it hears the news.
-/

namespace PrintClient.Session

open Connection (Effect Talk Pending)
open scoped List

variable {H : Type}

/-- Whether a notice is about an event. -/
def Notice.isEvent : Notice → Bool
  | .event _ => true
  | _ => false

/-- What is to be heard of a connection, events aside. -/
def news (g : Nat) (notices : List (Nat × Notice)) : List Notice :=
  notices.filterMap fun p => if p.1 = g ∧ p.2.isEvent = false then some p.2 else none

/-- What a session hears of some effects, events aside. -/
def tidings (effects : List (Effect (Reply H) String)) : List Notice :=
  (effects.filterMap World.noticeOf).filter fun n => !n.isEvent

@[simp] theorem news_append (g : Nat) (l m : List (Nat × Notice)) :
    news g (l ++ m) = news g l ++ news g m :=
  List.filterMap_append

theorem news_map (g : Nat) (notices : List Notice) :
    news g (notices.map fun n => (g, n)) = notices.filter fun n => !n.isEvent := by
  induction notices with
  | nil => rfl
  | cons n notices ih =>
    simp only [news, List.map_cons, List.filterMap_cons, List.filter_cons] at ih ⊢
    cases hn : n.isEvent <;> simp [ih]

theorem news_of_ne {g : Nat} {notices : List (Nat × Notice)} (h : ∀ p ∈ notices, p.1 ≠ g) :
    news g notices = [] :=
  List.filterMap_eq_nil_iff.2 fun p hp => if_neg fun hg => h p hp hg.1

/-- At least one failure, and nothing else. -/
def Failures (notices : List Notice) : Prop :=
  notices ≠ [] ∧ ∀ n ∈ notices, ∃ failure, n = .failed failure

theorem failures_singleton (failure : Failure) : Failures [.failed failure] := by simp [Failures]

theorem Failures.append {l m : List Notice} (h : Failures l) (hm : Failures m) :
    Failures (l ++ m) := by
  refine ⟨by simp [h.1], fun n hn => ?_⟩
  rcases List.mem_append.1 hn with hn | hn
  · exact h.2 n hn
  · exact hm.2 n hn

/-! ### Records of effects -/

theorem tidings_of_quiet {effects : List (Effect (Reply H) String)} (h : ∀ e ∈ effects, e.IsQuiet) :
    tidings effects = [] := by
  refine List.filter_eq_nil_iff.2 fun n hn => ?_
  obtain ⟨e, he, hn⟩ := List.mem_filterMap.1 hn
  have := h e he
  cases e <;> simp only [World.noticeOf, Option.some.injEq, reduceCtorEq] at hn
    <;> simp_all [Effect.IsQuiet]
  subst hn
  rfl

/-- A record of what was read on a connection, and of texts that its transport has taken. -/
def Reads (g : Nat) (l : List (Event H)) : Prop :=
  ∀ e ∈ l, (∃ id, e = .armed g id) ∨ ∃ i, e = .read g i

theorem reads_of_not_wrote {g : Nat} {effects : List (Effect (Reply H) String)}
    (h : ∀ id request reply, .wrote id request reply ∉ effects) :
    Reads g (effects.filterMap (World.recordOf g)) := by
  intro e he
  obtain ⟨effect, hmem, hr⟩ := List.mem_filterMap.1 he
  cases effect <;> simp only [World.recordOf, Option.some.injEq, reduceCtorEq] at hr
  · exact absurd hmem (h _ _ _)
  · exact .inl ⟨_, hr.symm⟩
  · exact .inr ⟨_, hr.symm⟩

theorem reads_of_quiet {g : Nat} {effects : List (Effect (Reply H) String)}
    (h : ∀ e ∈ effects, e.IsQuiet) : Reads g (effects.filterMap (World.recordOf g)) :=
  reads_of_not_wrote fun _ _ _ hmem => h _ hmem

/-- An open connection writes a request of its inbox, or nothing. -/
theorem recorded_talkStep {k k' : SessionLink H} {t : Talk (Reply H) String} {now : Nat}
    {effects : List (Effect (Reply H) String)} (g : Nat) (h : k.TalkStep t now k' effects) :
    Reads g (effects.filterMap (World.recordOf g)) ∨
      ∃ request reply, (request, reply) ∈ k.connection.requests ∧
        effects.filterMap (World.recordOf g) = [.wrote g (t.lastId + 1) ⟨request, reply⟩] := by
  cases h with
  | @wrote request reply _ inbox =>
    refine .inr ⟨request, reply, ?_, rfl⟩
    simp [Connection.requests, inbox, Connection.Command.request?]
  | @read i _ deliveries _ _ _ delivered =>
    refine .inl (reads_of_not_wrote fun id request reply hmem => ?_)
    rcases List.mem_cons.1 hmem with he | he
    · cases he
    · obtain ⟨_, _, _, he⟩ := delivered _ he
      cases he
  | subscribed => exact .inl (reads_of_not_wrote (by simp))
  | givenUp => exact .inl (reads_of_not_wrote (by simp))
  | unwritable => exact .inl (reads_of_not_wrote (by simp))
  | answered => exact .inl (reads_of_not_wrote (by simp))
  | failed => exact .inl (reads_of_not_wrote (by simp))
  | expired => exact .inl (reads_of_not_wrote (by simp))

section Reads

variable {g : Nat} {l : List (Event H)}

theorem Reads.filterMap {α : Type} {f : Event H → Option α} (h : Reads g l)
    (ha : ∀ id, f (.armed g id) = none) (hf : ∀ i, f (.read g i) = none) : l.filterMap f = [] := by
  refine List.filterMap_eq_nil_iff.2 fun e he => ?_
  rcases h e he with ⟨id, rfl⟩ | ⟨i, rfl⟩
  · exact ha id
  · exact hf i

theorem Reads.taken (h : Reads g l) : taken l = [] := h.filterMap (fun _ => rfl) fun _ => rfl

theorem Reads.endings (h : Reads g l) : endings l = [] := h.filterMap (fun _ => rfl) fun _ => rfl

theorem Reads.writesOn (h : Reads g l) (g' : Nat) : writesOn g' l = [] :=
  h.filterMap (fun _ => rfl) fun _ => rfl

theorem Reads.callerWrites (h : Reads g l) : callerWrites l = [] :=
  h.filterMap (fun _ => rfl) fun _ => rfl

/-- A text that is no response to a request leaves it without one. -/
theorem lookup_responsesOn_read_eq_none {i : Inbound} {n : Nat}
    (h : ∀ frame id data, i = .text frame → Frame.response? frame = some (id, data) → n ≠ id) :
    (responsesOn g [(.read g i : Event H)]).lookup n = none := by
  cases i with
  | text frame =>
    cases hr : Frame.response? frame with
    | none => simp [responsesOn, Event.responseOn?, hr]
    | some r =>
      have hne : n ≠ r.1 := h frame r.1 r.2 rfl (by rw [hr])
      simp [responsesOn, Event.responseOn?, hr, hne]
  | binary => rfl
  | control => rfl
  | close payload => rfl
  | broken reason => rfl
  | ended => rfl

theorem lookup_responsesOn_read {frame : String} {n : Nat} {data : Json}
    (h : Frame.response? frame = some (n, data)) :
    (responsesOn g [(.read g (.text frame) : Event H)]).lookup n = some data := by
  simp [responsesOn, Event.responseOn?, h]

end Reads

/-! ### Stances -/

/-- How a session `s`, the record `l` and the connection of generation `g` go together, when these
are the notices of the connection that the session has not seen, events aside. -/
inductive Stance (s : Session H) (l : List (Event H)) (g : Nat) (c : Connection (Reply H) String) :
    List Notice → Prop
  /-- The connection is on its way to the server. -/
  | opening (state : s.state = .connecting) (phase : c.phase = .opening)
      (requests : c.requests = []) (busy : c.busy = false) (numbers : writesOn g l = []) :
      Stance s l g c []
  /-- The session has not heard that the connection is open. -/
  | opened {t : Talk (Reply H) String} (state : s.state = .connecting) (free : c.IsFree t)
      (lastId : t.lastId = 0) (numbers : writesOn g l = []) : Stance s l g c [.handshaked]
  /-- The connection has not taken up the request on its way. -/
  | handed {t : Talk (Reply H) String} {q : Queued H} (inFlight : s.inFlight = some q)
      (phase : c.phase = .talking t) (pending : t.pending = none)
      (requests : c.requests = [(q.request, q.reply)])
      (numbers : (writesOn g l).length = t.lastId) (login : q.isLogin = true ↔ t.lastId = 0)
      (unwritten : callerWrites l <+ finished l) : Stance s l g c []
  /-- The request on its way is being written. -/
  | writing {t : Talk (Reply H) String} {q : Queued H} (inFlight : s.inFlight = some q)
      (phase : c.phase = .writing t q.reply) (requests : c.requests = [])
      (numbers : (writesOn g l).length = t.lastId) (login : q.isLogin = true ↔ t.lastId = 1)
      (awaited : Awaited l g t.lastId q) : Stance s l g c []
  /-- The request on its way was written, and no response to it was read. -/
  | awaiting {t : Talk (Reply H) String} {q : Queued H} {deadline : Nat}
      (inFlight : s.inFlight = some q) (phase : c.phase = .talking t)
      (pending : t.pending = some ⟨t.lastId, q.reply, deadline⟩)
      (requests : c.requests = []) (numbers : (writesOn g l).length = t.lastId)
      (login : q.isLogin = true ↔ t.lastId = 1) (awaited : Awaited l g t.lastId q) :
      Stance s l g c []
  /-- The session has not heard of the response to the request on its way. -/
  | answered {t : Talk (Reply H) String} {q : Queued H} {data : Json}
      (inFlight : s.inFlight = some q) (free : c.IsFree t)
      (numbers : (writesOn g l).length = t.lastId) (positive : 0 < t.lastId)
      (login : q.isLogin = true ↔ t.lastId = 1) (response : Answered l g t.lastId q data) :
      Stance s l g c [.completed data]
  /-- The session is logged in, and there is nothing to do. -/
  | idle {t : Talk (Reply H) String} (state : s.state = .connected) (inFlight : s.inFlight = none)
      (queue : s.queue = []) (free : c.IsFree t) (numbers : (writesOn g l).length = t.lastId)
      (positive : 0 < t.lastId) : Stance s l g c []
  /-- The session has not heard that the response to the request on its way did not come in time. -/
  | expired {t : Talk (Reply H) String} {news : List Notice} (inFlight : s.inFlight ≠ none)
      (free : c.IsFree t) (failures : Failures news) : Stance s l g c news
  /-- The connection has failed before the session heard that it was open. -/
  | overOpened {news : List Notice} (state : s.state = .connecting) (isOver : c.IsOver)
      (failures : Failures news) : Stance s l g c (.handshaked :: news)
  /-- The connection has failed before the session heard of the response that it had read. -/
  | overAnswered {q : Queued H} {id : Nat} {data : Json} {news : List Notice}
      (inFlight : s.inFlight = some q) (isOver : c.IsOver) (login : q.isLogin = true ↔ id = 1)
      (response : Answered l g id q data) (failures : Failures news) :
      Stance s l g c (.completed data :: news)
  /-- The connection has failed. -/
  | broken {news : List Notice} (isOver : c.IsOver) (failures : Failures news) : Stance s l g c news

namespace Stance

variable {s s' : Session H} {l m : List (Event H)} {g : Nat} {c c' : Connection (Reply H) String}
  {ns : List Notice}

/-- Steps that are not about the connection and its requests keep the stance. -/
theorem mono (h : Stance s l g c ns) (hle : (endings l).length ≤ (taken l).length)
    (hm : ∀ e ∈ m, e.IsQuiet) (hstate : s'.state = s.state) (hinFlight : s'.inFlight = s.inFlight)
    (hqueue : s.state = .connected → s.inFlight = none → s'.queue = s.queue) (ha : c.Alike c') :
    Stance s' (l ++ m) g c' ns := by
  have hw : writesOn g (l ++ m) = writesOn g l := by
    rw [writesOn_append, writesOn_of_quiet hm, List.append_nil]
  cases h with
  | opening state phase requests busy numbers =>
    exact .opening (hstate.trans state) (ha.phase.trans phase) (ha.requests.trans requests)
      (ha.busy.trans busy) (hw.trans numbers)
  | opened state free lastId numbers =>
    exact .opened (hstate.trans state) (ha.isFree free) lastId (hw.trans numbers)
  | handed inFlight phase pending requests numbers login unwritten =>
    refine .handed (hinFlight.trans inFlight) (ha.phase.trans phase) pending
      (ha.requests.trans requests) (by rw [hw, numbers]) login ?_
    rwa [callerWrites_append, callerWrites_of_quiet hm, List.append_nil,
      finished_append hle (endings_of_quiet hm)]
  | writing inFlight phase requests numbers login awaited =>
    refine .writing (hinFlight.trans inFlight) (ha.phase.trans phase) (ha.requests.trans requests)
      (by rw [hw, numbers]) login
      (awaited.append (writesOn_of_quiet hm g) (endings_of_quiet hm) ?_)
    rw [responsesOn_of_quiet hm]
    rfl
  | awaiting inFlight phase pending requests numbers login awaited =>
    refine .awaiting (hinFlight.trans inFlight) (ha.phase.trans phase) pending
      (ha.requests.trans requests) (by rw [hw, numbers]) login
      (awaited.append (writesOn_of_quiet hm g) (endings_of_quiet hm) ?_)
    rw [responsesOn_of_quiet hm]
    rfl
  | answered inFlight free numbers positive login response =>
    exact .answered (hinFlight.trans inFlight) (ha.isFree free) (by rw [hw, numbers]) positive login
      (response.append (writesOn_of_quiet hm g) (endings_of_quiet hm))
  | idle state inFlight queue free numbers positive =>
    exact .idle (hstate.trans state) (hinFlight.trans inFlight)
      ((hqueue state inFlight).trans queue) (ha.isFree free) (by rw [hw, numbers]) positive
  | expired inFlight free failures => exact .expired (by rwa [hinFlight]) (ha.isFree free) failures
  | overOpened state isOver failures =>
    exact .overOpened (hstate.trans state) (ha.isOver isOver) failures
  | overAnswered inFlight isOver login response failures =>
    exact .overAnswered (hinFlight.trans inFlight) (ha.isOver isOver) login
      (response.append (writesOn_of_quiet hm g) (endings_of_quiet hm)) failures
  | broken isOver failures => exact .broken (ha.isOver isOver) failures

/-! ### Steps of the connection -/

section Hear

variable {k k' : SessionLink H} {now : Nat} {effects : List (Effect (Reply H) String)}

/-- What a step of the connection makes of the record, the news and the stance. -/
def Heard (s : Session H) (l : List (Event H)) (g : Nat) (ns : List Notice) (k' : SessionLink H)
    (effects : List (Effect (Reply H) String)) : Prop :=
  Stance s (l ++ effects.filterMap (World.recordOf g)) g k'.connection (ns ++ tidings effects)

theorem writesOn_append_quiet (h : ∀ e ∈ effects, e.IsQuiet) :
    writesOn g (l ++ effects.filterMap (World.recordOf g)) = writesOn g l := by
  rw [writesOn_append, (reads_of_quiet h).writesOn, List.append_nil]

/-- A free connection stays so or fails. -/
theorem hear_free {t : Talk (Reply H) String} (hf : k.connection.IsFree t)
    (hc : k.connection.cancelled = false) (hs : k.step? now = some (k', effects))
    (stays : ∀ t', k'.connection.IsFree t' → t'.lastId = t.lastId → (∀ e ∈ effects, e.IsQuiet) →
      Heard s l g ns k' effects)
    (fails : ∀ i failure, k'.connection.IsOver → effects = [.read i, .failed failure] →
      Heard s l g ns k' effects) :
    Heard s l g ns k' effects := by
  rcases hf.step (Link.talkStep_of_step? hf.phase hc hs) with
    ⟨t', hf', hid, hq⟩ | ⟨ho, i, failure, he⟩
  · exact stays t' hf' hid hq
  · exact fails i failure ho he

/-- A connection that has failed only gives up what is left in its inbox. -/
theorem hear_over (ho : k.connection.IsOver) (hs : k.step? now = some (k', effects)) :
    k'.connection.IsOver ∧ ∀ e ∈ effects, e.IsQuiet := by
  obtain ⟨ho', hd⟩ := Link.step?_of_isOver ho hs
  refine ⟨ho', fun e he => ?_⟩
  obtain ⟨handler, rfl⟩ := hd e he
  trivial

theorem hear_opening (hstate : s.state = .connecting) (hp : k.connection.phase = .opening)
    (hr : k.connection.requests = []) (hb : k.connection.busy = false) (hn : writesOn g l = [])
    (hc : k.connection.cancelled = false) (hs : k.step? now = some (k', effects)) :
    Heard s l g [] k' effects := by
  rcases Link.step?_of_opening hp hc hs with ⟨rfl, rfl⟩ | ⟨failure, rfl, rfl⟩
  · refine .opened hstate ⟨rfl, rfl, hr, hb⟩ rfl ?_
    rw [writesOn_append, hn]
    rfl
  · exact .broken (.inl rfl) (failures_singleton failure)

/-- The request on its way is written, or it cannot be. -/
theorem hear_handed {t : Talk (Reply H) String} {q : Queued H} (hi : s.inFlight = some q)
    (hp : t.pending = none) (hr : k.connection.requests = [(q.request, q.reply)])
    (hn : (writesOn g l).length = t.lastId) (hl : q.isLogin = true ↔ t.lastId = 0)
    (hu : callerWrites l <+ finished l) (h : k.TalkStep t now k' effects) :
    Heard s l g [] k' effects := by
  -- The request is in the inbox, so the connection does not read yet.
  have hempty : k.connection.inbox = [] → False := by
    intro hinbox
    simp [Connection.requests, hinbox] at hr
  cases h with
  | subscribed inbox =>
    rw [Connection.requests, inbox] at hr
    rw [Heard, List.filterMap_nil, List.append_nil]
    exact .handed hi rfl hp hr hn hl hu
  | wrote inbox =>
    rw [Connection.requests, inbox] at hr
    obtain ⟨hq, hrest⟩ := List.cons.inj hr
    obtain ⟨rfl, rfl⟩ := Prod.mk.inj hq
    refine .writing hi rfl hrest ?_ ?_ (awaited_wrote l g _ q)
    · rw [writesOn_append, List.length_append, hn]
      simp [writesOn, Event.writeOn?, World.recordOf]
    · rw [hl]
      exact ⟨fun h => by rw [h], fun h => Nat.succ.inj h⟩
  | givenUp _ pending => rw [hp] at pending; cases pending
  | unwritable => exact .broken (.inl rfl) (failures_singleton _)
  | read inbox => exact (hempty inbox).elim
  | answered inbox => exact (hempty inbox).elim
  | failed inbox => exact (hempty inbox).elim
  | expired inbox => exact (hempty inbox).elim

/-- The text of the request on its way is taken, or the transport fails. -/
theorem hear_writing {t : Talk (Reply H) String} {q : Queued H} (hi : s.inFlight = some q)
    (hr : k.connection.requests = []) (hc : k.connection.cancelled = false)
    (hn : (writesOn g l).length = t.lastId)
    (hl : q.isLogin = true ↔ t.lastId = 1) (ha : Awaited l g t.lastId q)
    (h : k.WriteStep t q.reply now k' effects) : Heard s l g [] k' effects := by
  cases h with
  | armed =>
    have hquiet : ∀ e ∈ [(.armed g t.lastId : Event H)], e.IsQuiet := by simp
    refine .awaiting hi rfl rfl hr ?_ hl
      (ha.append (writesOn_of_quiet hquiet g) (endings_of_quiet hquiet) rfl)
    rw [writesOn_append, hn.symm]
    exact congrArg List.length (List.append_nil _)
  | unwritable => exact .broken (.inl rfl) (failures_singleton _)
  | brokenOff _ wish =>
    rw [hc] at wish
    cases wish

/-- The request on its way is answered, or it goes on to wait, or it is given up. -/
theorem hear_awaiting {t : Talk (Reply H) String} {q : Queued H} {deadline : Nat}
    (hi : s.inFlight = some q) (hp : t.pending = some ⟨t.lastId, q.reply, deadline⟩)
    (hr : k.connection.requests = []) (hphase : k.connection.phase = .talking t)
    (hn : (writesOn g l).length = t.lastId)
    (hl : q.isLogin = true ↔ t.lastId = 1) (ha : Awaited l g t.lastId q)
    (h : k.TalkStep t now k' effects) : Heard s l g [] k' effects := by
  cases h with
  | subscribed inbox =>
    rw [Connection.requests, inbox] at hr
    rw [Heard, List.filterMap_nil, List.append_nil]
    exact .awaiting hi rfl hp hr hn hl ha
  | wrote inbox => simp [Connection.requests, inbox, Connection.Command.request?] at hr
  | givenUp inbox => simp [Connection.requests, inbox, Connection.Command.request?] at hr
  | unwritable inbox => simp [Connection.requests, inbox, Connection.Command.request?] at hr
  | @read i _ deliveries _ _ unmatched delivered =>
    have hquiet : ∀ e ∈ deliveries, e.IsQuiet := by
      intro e he
      obtain ⟨_, _, _, rfl⟩ := delivered e he
      trivial
    have hrecord : deliveries.filterMap (World.recordOf g) = [] := by
      refine List.filterMap_eq_nil_iff.2 fun e he => ?_
      obtain ⟨_, _, _, rfl⟩ := delivered e he
      rfl
    have hall : ∀ e ∈ Effect.read i :: deliveries, e.IsQuiet :=
      List.forall_mem_cons.2 ⟨trivial, hquiet⟩
    rw [Heard, tidings_of_quiet hall]
    have hw := writesOn_append_quiet (l := l) (g := g) hall
    refine .awaiting hi hphase hp hr (by rw [hw, hn]) hl
      (ha.append ((reads_of_quiet hall).writesOn g) (reads_of_quiet hall).endings ?_)
    have hcons : (Effect.read i :: deliveries).filterMap (World.recordOf g) = [.read g i] := by
      rw [List.filterMap_cons, hrecord]
      rfl
    rw [hcons]
    exact lookup_responsesOn_read_eq_none fun frame id data hi hr' =>
      (unmatched frame id data hi hr').2 _ hp
  | @answered frame _ data p _ _ pending response =>
    rw [hp] at pending
    cases pending
    refine .answered hi ⟨rfl, rfl, hr, rfl⟩ ?_ (hn ▸ ha.length_pos) hl (ha.answered rfl rfl ?_)
    · rw [writesOn_append, List.length_append, hn]
      rfl
    · exact lookup_responsesOn_read response
  | failed =>
    have hawaited : t.awaited = [q.reply] := by simp [Talk.awaited, hp]
    rw [hawaited]
    exact .broken (.inl rfl) (failures_singleton _)
  | expired => exact .expired (by simp [hi]) ⟨rfl, rfl, hr, rfl⟩ (failures_singleton _)

/-- **A step of the connection that is held leads from one stance to another.** -/
theorem hear (h : Stance s l g k.connection ns) (hc : k.connection.cancelled = false)
    (hs : k.step? now = some (k', effects)) : Heard s l g ns k' effects := by
  have hquiet : (∀ e ∈ effects, e.IsQuiet) → tidings effects = [] ∧
      writesOn g (l ++ effects.filterMap (World.recordOf g)) = writesOn g l :=
    fun hq => ⟨tidings_of_quiet hq, writesOn_append_quiet hq⟩
  cases h with
  | opening state phase requests busy numbers =>
    exact hear_opening state phase requests busy numbers hc hs
  | handed inFlight phase pending requests numbers login unwritten =>
    exact hear_handed inFlight pending requests numbers login unwritten
      (Link.talkStep_of_step? phase hc hs)
  | writing inFlight phase requests numbers login awaited =>
    exact hear_writing inFlight requests hc numbers login awaited (Link.writeStep_of_step? phase hs)
  | awaiting inFlight phase pending requests numbers login awaited =>
    exact hear_awaiting inFlight pending requests phase numbers login awaited
      (Link.talkStep_of_step? phase hc hs)
  | opened state free lastId numbers =>
    refine hear_free free hc hs (fun t' hf' hid hq => ?_) fun i failure ho he => ?_
    · rw [Heard, (hquiet hq).1]
      exact .opened state hf' (hid.trans lastId) ((hquiet hq).2.trans numbers)
    · rw [he]
      exact .overOpened state ho (failures_singleton failure)
  | answered inFlight free numbers positive login response =>
    refine hear_free free hc hs (fun t' hf' hid hq => ?_) fun i failure ho he => ?_
    · rw [Heard, (hquiet hq).1]
      rw [← hid] at numbers positive login response
      exact .answered inFlight hf' (by rw [(hquiet hq).2, numbers]) positive login
        (response.append ((reads_of_quiet hq).writesOn g) (reads_of_quiet hq).endings)
    · rw [he]
      exact .overAnswered inFlight ho login (response.append rfl rfl) (failures_singleton failure)
  | idle state inFlight queue free numbers positive =>
    refine hear_free free hc hs (fun t' hf' hid hq => ?_) fun i failure ho he => ?_
    · rw [Heard, (hquiet hq).1]
      exact .idle state inFlight queue hf' (by rw [(hquiet hq).2, numbers, hid])
        (by rw [hid]; exact positive)
    · rw [he]
      exact .broken ho (failures_singleton failure)
  | expired inFlight free failures =>
    refine hear_free free hc hs (fun t' hf' _ hq => ?_) fun i failure ho he => ?_
    · rw [Heard, (hquiet hq).1, List.append_nil]
      exact .expired inFlight hf' failures
    · rw [he]
      exact .broken ho (failures.append (failures_singleton failure))
  | overOpened state isOver failures =>
    obtain ⟨ho, hq⟩ := hear_over isOver hs
    rw [Heard, (hquiet hq).1, List.append_nil]
    exact .overOpened state ho failures
  | overAnswered inFlight isOver login response failures =>
    obtain ⟨ho, hq⟩ := hear_over isOver hs
    rw [Heard, (hquiet hq).1, List.append_nil]
    exact .overAnswered inFlight ho login
      (response.append ((reads_of_quiet hq).writesOn g) (reads_of_quiet hq).endings) failures
  | broken isOver failures =>
    obtain ⟨ho, hq⟩ := hear_over isOver hs
    rw [Heard, (hquiet hq).1, List.append_nil]
    exact .broken ho failures

/-- A step of the connection that is held writes the request on its way, or nothing. -/
theorem recorded (h : Stance s l g k.connection ns) (hc : k.connection.cancelled = false)
    (hs : k.step? now = some (k', effects)) :
    Reads g (effects.filterMap (World.recordOf g)) ∨
      ∃ q, s.inFlight = some q ∧ (q.isLogin = true ↔ (writesOn g l).length = 0) ∧
        callerWrites l <+ finished l ∧
        effects.filterMap (World.recordOf g) = [.wrote g ((writesOn g l).length + 1) q] := by
  -- Only a request of the inbox can be written.
  have hidle : ∀ t, k.connection.phase = .talking t → k.connection.requests = [] →
      Reads g (effects.filterMap (World.recordOf g)) := by
    intro t hphase hr
    refine (recorded_talkStep g (Link.talkStep_of_step? hphase hc hs)).resolve_right ?_
    rintro ⟨request, reply, hmem, -⟩
    rw [hr] at hmem
    cases hmem
  have hover : k.connection.IsOver → Reads g (effects.filterMap (World.recordOf g)) :=
    fun ho => reads_of_quiet (hear_over ho hs).2
  cases h with
  | opening _ phase =>
    rcases Link.step?_of_opening phase hc hs with ⟨-, rfl⟩ | ⟨failure, rfl, -⟩
    · exact .inl (reads_of_not_wrote (by simp))
    · exact .inl (reads_of_not_wrote (by simp))
  | @handed t q inFlight phase _ requests numbers login unwritten =>
    rcases recorded_talkStep g (Link.talkStep_of_step? phase hc hs) with
      hreads | ⟨request, reply, hmem, he⟩
    · exact .inl hreads
    · rw [requests, List.mem_singleton] at hmem
      obtain ⟨rfl, rfl⟩ := Prod.mk.inj hmem
      rw [← numbers] at login he
      exact .inr ⟨q, inFlight, login, unwritten, he⟩
  | writing _ phase =>
    refine .inl (reads_of_not_wrote fun id request reply hmem => ?_)
    cases Link.writeStep_of_step? phase hs <;> simp at hmem
  | awaiting _ phase _ requests => exact .inl (hidle _ phase requests)
  | opened _ free => exact .inl (hidle _ free.phase free.requests)
  | answered _ free => exact .inl (hidle _ free.phase free.requests)
  | idle _ _ _ free => exact .inl (hidle _ free.phase free.requests)
  | expired _ free => exact .inl (hidle _ free.phase free.requests)
  | overOpened _ isOver => exact .inl (hover isOver)
  | overAnswered _ isOver => exact .inl (hover isOver)
  | broken isOver => exact .inl (hover isOver)

end Hear

end Stance

/-! ### What the session hears -/

/-- A connection that takes the next request at once, or one that has failed. -/
inductive Poised (s : Session H) (l : List (Event H)) (g : Nat) (c : Connection (Reply H) String) :
    List Notice → Prop
  | free {t : Talk (Reply H) String} (inFlight : s.inFlight = none) (free : c.IsFree t)
      (numbers : (writesOn g l).length = t.lastId)
      (state : s.state = .awaitingLogin ∧ t.lastId = 0 ∨ s.state = .connected ∧ 0 < t.lastId) :
      Poised s l g c []
  | broken {news : List Notice} (isOver : c.IsOver) (failures : Failures news) : Poised s l g c news

theorem not_failures_cons {n : Notice} {ns : List Notice} (h : ∀ failure, n ≠ .failed failure) :
    ¬ Failures (n :: ns) := by
  intro hf
  obtain ⟨failure, hn⟩ := hf.2 n List.mem_cons_self
  exact h failure hn

namespace Stance

variable {s s' : Session H} {l l' : List (Event H)} {g : Nat} {c : Connection (Reply H) String}
  {ns : List Notice} {data : Json}

/-- The session hears that the connection is open while it is connecting. -/
theorem state_of_handshaked (h : Stance s l g c (.handshaked :: ns)) : s.state = .connecting := by
  cases h with
  | opened state => exact state
  | overOpened state => exact state
  | expired _ _ failures => exact (not_failures_cons (by simp) failures).elim
  | broken _ failures => exact (not_failures_cons (by simp) failures).elim

/-- Then the login can be handed over. -/
theorem poised_of_handshaked (h : Stance s l g c (.handshaked :: ns)) (hi : s'.inFlight = none)
    (hs : s'.state = .awaitingLogin) (hw : writesOn g l' = writesOn g l) : Poised s' l' g c ns := by
  cases h with
  | opened _ free lastId numbers =>
    exact .free hi free (by rw [hw, numbers, lastId]; rfl) (.inl ⟨hs, lastId⟩)
  | overOpened _ isOver failures => exact .broken isOver failures
  | expired _ _ failures => exact (not_failures_cons (by simp) failures).elim
  | broken _ failures => exact (not_failures_cons (by simp) failures).elim

/-- The session hears of the first response to the request on its way. -/
theorem answered_of_completed (h : Stance s l g c (.completed data :: ns)) :
    ∃ q id, s.inFlight = some q ∧ (q.isLogin = true ↔ id = 1) ∧ Answered l g id q data := by
  cases h with
  | answered inFlight _ _ _ login response => exact ⟨_, _, inFlight, login, response⟩
  | overAnswered inFlight _ login response => exact ⟨_, _, inFlight, login, response⟩
  | expired _ _ failures => exact (not_failures_cons (by simp) failures).elim
  | broken _ failures => exact (not_failures_cons (by simp) failures).elim

/-- Then the next request can be handed over. -/
theorem poised_of_completed (h : Stance s l g c (.completed data :: ns)) (hi : s'.inFlight = none)
    (hs : s'.state = .connected) (hw : writesOn g l' = writesOn g l) : Poised s' l' g c ns := by
  cases h with
  | answered _ free numbers positive =>
    exact .free hi free (by rw [hw, numbers]) (.inr ⟨hs, positive⟩)
  | overAnswered _ isOver _ _ failures => exact .broken isOver failures
  | expired _ _ failures => exact (not_failures_cons (by simp) failures).elim
  | broken _ failures => exact (not_failures_cons (by simp) failures).elim

/-- A new request is handed over, or it has to wait in the queue. -/
theorem poised_or (h : Stance s l g c ns) (hi : s'.inFlight = s.inFlight) (hs : s'.state = s.state)
    (hw : writesOn g l' = writesOn g l) :
    Poised s' l' g c ns ∨ s.inFlight ≠ none ∨ s.state = .connecting := by
  cases h with
  | opening state => exact .inr (.inr state)
  | opened state => exact .inr (.inr state)
  | overOpened state => exact .inr (.inr state)
  | handed inFlight => exact .inr (.inl (by simp [inFlight]))
  | writing inFlight => exact .inr (.inl (by simp [inFlight]))
  | awaiting inFlight => exact .inr (.inl (by simp [inFlight]))
  | answered inFlight => exact .inr (.inl (by simp [inFlight]))
  | overAnswered inFlight => exact .inr (.inl (by simp [inFlight]))
  | expired inFlight => exact .inr (.inl inFlight)
  | idle state inFlight _ free numbers positive =>
    exact .inl (.free (hi.trans inFlight) free (by rw [hw, numbers])
      (.inr ⟨hs.trans state, positive⟩))
  | broken isOver failures => exact .inl (.broken isOver failures)

end Stance

end PrintClient.Session
