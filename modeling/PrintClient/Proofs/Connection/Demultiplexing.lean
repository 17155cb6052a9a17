import PrintClient.Proofs.Connection.Batches
import PrintClient.Proofs.Connection.Forwarders
import PrintClient.Proofs.Connection.Outcomes

/-!
# From frames to handlers

A connection takes up what the server sends piece by piece, in the order of its arrival. A frame
that is well formed calls the handlers that it is meant for, all of them before the next frame is
read, and leaves everything else as it is. A malformed frame calls no handler of a response or of an
event, and ends the connection.

* `Frame.calls`, `Inbound.calls`: the calls that a frame asks for;
* `Inbound.isSome_violation?_of_batch`: one malformed event spoils its batch;
* `lastSubscribed`, `forwarder?_after`: the handler of an event is the one that was subscribed last;
* `filter_receive`, `receive_of_wellFormed`, `receive_of_violation`: what becomes of one frame;
* `Reading`, `Reading.IsTakenIn`: something that was read, and what it did to the connection;
* `Demultiplexed`, `frames_demultiplexed`: all that is read in a run.
-/

namespace PrintClient

open Connection

variable {R E : Type}

/-! ### What a frame asks for -/

/-- Whether a frame with a text or with bytes was received. -/
def Inbound.isFrame : Inbound → Bool
  | .text _ | .binary => true
  | _ => false

/-- How a frame breaks the protocol. -/
def Inbound.violation? : Inbound → Option Violation
  | .text frame =>
    match Frame.parse frame with
    | .ok _ => none
    | .error violation => some violation
  | _ => none

/-- The number and the data of a response. -/
def Inbound.response? : Inbound → Option (Nat × Json)
  | .text frame => Frame.response? frame
  | _ => none

/-- The calls that a frame asks for: a response calls the handler of the request in the slot if it
has its number, and each event of a batch calls the handler of its name. -/
def Frame.calls (slot : Option (Pending R)) (handlerOf : String → Option E) :
    Frame → List (Effect R E)
  | .response id data =>
    match slot with
    | some p => if p.callbackId = id then [.answered p.handler data] else []
    | none => []
  | .events batch =>
    batch.filterMap fun e =>
      (handlerOf e.name).map fun handler => .delivered handler e.printer e.data
  | .ignored => []

/-- A frame asks for calls of handlers of responses and of events. -/
theorem Frame.mem_calls {slot : Option (Pending R)} {handlerOf : String → Option E} {f : Frame}
    {e : Effect R E} (h : e ∈ f.calls slot handlerOf) :
    (∃ handler data, e = .answered handler data) ∨
      ∃ handler printer data, e = .delivered handler printer data := by
  cases f with
  | ignored => cases h
  | events batch =>
    obtain ⟨event, -, he⟩ := List.mem_filterMap.1 h
    obtain ⟨handler, -, rfl⟩ := Option.map_eq_some_iff.1 he
    exact .inr ⟨handler, event.printer, event.data, rfl⟩
  | response id data =>
    simp only [Frame.calls] at h
    split at h
    · split at h
      · obtain rfl := List.mem_singleton.1 h
        exact .inl ⟨_, data, rfl⟩
      · cases h
    · cases h

/-- The calls that something received asks for. A malformed frame asks for none. -/
def Inbound.calls (slot : Option (Pending R)) (handlerOf : String → Option E) :
    Inbound → List (Effect R E)
  | .text frame =>
    match Frame.parse frame with
    | .ok f => f.calls slot handlerOf
    | .error _ => []
  | _ => []

/-- **A batch of events is malformed when one of its elements is**, wherever it stands. -/
theorem Inbound.isSome_violation?_of_batch {text : String} {envelope : Envelope}
    {items : List Json} (hparse : Envelope.parse text = .ok envelope)
    (hid : envelope.callbackId < 0) (hlist : envelope.eventList = true)
    (hdata : envelope.data = .array items) :
    (Inbound.text text).violation?.isSome ↔ ∃ v ∈ items, ∀ e, PushEvent.ofJson v ≠ .ok e := by
  have hframe : Frame.parse text =
      ((items.mapM PushEvent.ofJson).map Frame.events).mapError .eventList := by
    rw [Frame.parse, hparse]
    show envelope.toFrame = _
    rw [Envelope.toFrame_of_eventList hid hlist, hdata]
    rfl
  have hread : (∃ v ∈ items, ∀ e, PushEvent.ofJson v ≠ .ok e) ↔
      ¬ ∃ batch, items.mapM PushEvent.ofJson = .ok batch := by
    rw [PushEvent.exists_mapM_eq_ok]
    push Not
    rfl
  rw [hread, Inbound.violation?, hframe]
  cases items.mapM PushEvent.ofJson with
  | error f => exact iff_of_true rfl (by rintro ⟨_, ⟨⟩⟩)
  | ok batch => exact iff_of_false Bool.false_ne_true fun hnone => hnone ⟨batch, rfl⟩

theorem Inbound.isFrame_of_violation {i : Inbound} (h : i.violation?.isSome) :
    i.isFrame = true := by
  cases i with
  | text => rfl
  | _ => cases h

namespace Connection

/-- What was recorded because of frames. -/
def Event.isOfFrame : Event R E → Bool
  | .did effect => effect.isOfFrame
  | _ => false

section Receive

variable {c : Connection R E} {t : Talk R E} {i : Inbound}

theorem filter_fail (hp : c.phase = .talking t) (failure : Failure) :
    (c.fail failure).2.filter Effect.isOfFrame = [] := by
  rw [Link.fail_of_talking hp]
  refine List.filter_eq_nil_iff.2 fun e he => ?_
  rcases List.mem_append.1 he with he | he
  · obtain ⟨handler, -, rfl⟩ := List.mem_map.1 he
    exact Bool.false_ne_true
  · obtain rfl := List.mem_singleton.1 he
    exact Bool.false_ne_true

/-- A well-formed frame makes the calls that it asks for. It leaves the connection as it is, unless
it is the response to the request in the slot. -/
theorem receive_of_parse_eq_ok {frame : String} {f : Frame} (h : Frame.parse frame = .ok f) :
    (c.receive t (.text frame)).2 = f.calls t.pending (t.handlers.lookup ·) ∧
      ((c.receive t (.text frame)).1 = c ∨
        (∃ t', (c.receive t (.text frame)).1.phase = .talking t') ∧
          ∃ p data, t.pending = some p ∧ f = .response p.callbackId data) := by
  cases f with
  | ignored =>
    rw [receive_of_ignored h]
    exact ⟨rfl, .inl rfl⟩
  | events batch =>
    rw [receive_of_events h]
    exact ⟨rfl, .inl rfl⟩
  | response id data =>
    rw [receive_of_response h]
    rcases resolve_eq c t id data with ⟨p, hpend, rfl, hr⟩ | ⟨hne, hr⟩
    · rw [hr]
      exact ⟨by simp [Frame.calls, hpend], .inr ⟨⟨_, rfl⟩, p, data, hpend, rfl⟩⟩
    · rw [hr]
      refine ⟨?_, .inl rfl⟩
      cases hpend : t.pending with
      | none => rfl
      | some p => exact (if_neg (hne p hpend)).symm

theorem receive_of_violation {violation : Violation} (h : i.violation? = some violation) :
    c.receive t i = c.fail (.violation violation) := by
  cases i with
  | text frame =>
    simp only [Inbound.violation?] at h
    split at h
    · cases h
    · rename_i v hparse
      cases h
      simp only [receive, hparse]
  | _ => cases h

/-- A frame without a fault. -/
theorem receive_of_wellFormed (hframe : i.isFrame = true) (h : i.violation? = none) :
    (c.receive t i).2 = i.calls t.pending (t.handlers.lookup ·) ∧
      ((c.receive t i).1 = c ∨
        (∃ t', (c.receive t i).1.phase = .talking t') ∧
          ∃ p data, t.pending = some p ∧ i.response? = some (p.callbackId, data)) := by
  cases i with
  | binary => exact ⟨rfl, .inl rfl⟩
  | text frame =>
    simp only [Inbound.violation?] at h
    split at h
    · rename_i f hparse
      obtain ⟨hcalls, hsame⟩ := receive_of_parse_eq_ok (c := c) (t := t) hparse
      refine ⟨?_, hsame.imp_right fun ⟨hopen, p, data, hpend, hf⟩ => ⟨hopen, p, data, hpend, ?_⟩⟩
      · rw [hcalls]
        simp only [Inbound.calls, hparse]
      · exact Frame.response?_eq_some.2 (hf ▸ hparse)
    · cases h
  | _ => cases hframe

/-- **The handlers of responses and of events that are called are those that a frame asks for**, in
this order. -/
theorem filter_receive (hp : c.phase = .talking t) (i : Inbound) :
    (c.receive t i).2.filter Effect.isOfFrame = i.calls t.pending (t.handlers.lookup ·) := by
  cases i with
  | binary => rfl
  | control => rfl
  | close payload => exact filter_fail hp _
  | broken reason => exact filter_fail hp _
  | ended => exact filter_fail hp _
  | text frame =>
    simp only [Inbound.calls]
    split
    · rename_i f hparse
      rw [(receive_of_parse_eq_ok hparse).1]
      refine List.filter_eq_self.2 fun e he => ?_
      rcases Frame.mem_calls he with ⟨_, _, rfl⟩ | ⟨_, _, _, rfl⟩ <;> rfl
    · rename_i v hparse
      have hv : (Inbound.text frame).violation? = some v := by
        simp only [Inbound.violation?, hparse]
      rw [receive_of_violation hv]
      exact filter_fail hp _

end Receive

end Connection

/-- An open connection that nobody wants closed reads when its commands have been taken. -/
theorem Link.step?_eq_read {l : Link R E} {t : Talk R E} {i : Inbound} {rest : List Inbound}
    {now : Nat} (hp : l.connection.phase = .talking t) (hc : l.connection.cancelled = false)
    (hi : l.connection.inbox = []) (hu : l.unread = i :: rest) :
    l.step? now = some (l.read t i rest) := by
  simp only [step?, hp, hc, Bool.false_eq_true, if_false, talkStep?, hi, hu]

namespace Connection

/-! ### Handlers of events -/

/-- The handler that was subscribed last for an event. -/
def lastSubscribed (acts : List (Act R E)) (event : String) : Option E :=
  acts.reverse.findSome? fun
    | .subscribe name handler => if name = event then some handler else none
    | _ => none

theorem lastSubscribed_concat (acts : List (Act R E)) (a : Act R E) (event : String) :
    lastSubscribed (acts ++ [a]) event =
      (lastSubscribed [a] event).or (lastSubscribed acts event) := by
  rw [lastSubscribed, List.reverse_append, List.findSome?_append]
  rfl

namespace Run

/-- A connection that is done with its work stays so. -/
theorem isOver_act {r : Run R E} (a : Act R E) (h : r.link.connection.IsOver) :
    (r.act a).link.connection.IsOver := by
  rcases (r.did_act a).handed_or_moved with ⟨more, hhanded⟩ | ⟨l', effects, step, -, heq⟩
  · exact hhanded.isOver.2 h
  · rw [heq]
    exact (Link.step?_of_isOver h step).1

/-- What an act makes of the handler of an event. -/
theorem forwarder?_act {r : Run R E} {a : Act R E} (h : ¬ (r.act a).link.connection.IsOver)
    (event : String) : (r.act a).link.connection.forwarder? event =
      (lastSubscribed [a] event).or (r.link.connection.forwarder? event) := by
  have hover : ¬ r.link.connection.IsOver := fun hr => h (isOver_act a hr)
  cases a with
  | connect =>
    rcases r.act_connect with ⟨hp, hact⟩ | hact
    · rw [hact]
      simp [forwarder?, handlers, withConnection, hp, lastSubscribed]
    · rw [hact]
      rfl
  | send request handler =>
    rcases r.link.connection.send_cases request handler with ⟨failure, hs⟩ | ⟨-, -, -, hs⟩
    · simp [act, hs, note, lastSubscribed]
    · have hconnection : (r.act (.send request handler)).link.connection = { r.link.connection with
          busy := true
          inbox := r.link.connection.inbox ++ [.send request handler] } := by
        simp [act, hs, note, withConnection]
      rw [hconnection, forwarder?_append]
      rfl
  | subscribe name handler =>
    show (r.link.connection.subscribe name handler).forwarder? event = _
    rw [forwarder?_subscribe hover]
    by_cases hname : name = event <;> simp [lastSubscribed, hname]
  | step =>
    show (r.step?.getD r).link.connection.forwarder? event = _
    replace h : ¬ (r.step?.getD r).link.connection.IsOver := h
    cases hs : r.link.step? r.clock with
    | none => simp [step?, hs, lastSubscribed]
    | some done =>
      have hstep : r.step? = some ({ r with link := done.1 }.note (done.2.map .did)) := by
        simp [step?, hs]
      rw [hstep] at h ⊢
      exact Link.forwarder?_step hs h event
  | _ => rfl

/-- **The handler of an event is the one that was subscribed last**, until the connection is done
with its work. -/
theorem forwarder?_after (timeout : Nat) (acts : List (Act R E))
    (h : ¬ (after timeout acts).link.connection.IsOver) (event : String) :
    (after timeout acts).link.connection.forwarder? event = lastSubscribed acts event := by
  induction acts using List.reverseRecOn with
  | nil => rfl
  | append_singleton acts a ih =>
    rw [after_concat] at h ⊢
    rw [forwarder?_act h, ih fun hover => h (isOver_act a hover)]
    exact (lastSubscribed_concat acts a event).symm

/-! ### All that is read -/

/-- Something that was read, and what was done before. -/
structure Reading (R E : Type) where
  before : List (Act R E)
  inbound : Inbound

namespace Reading

variable (timeout : Nat) (x : Reading R E)

/-- The run when it is read. -/
def start : Run R E := after timeout x.before

/-- The run after it was read. -/
def finish : Run R E := after timeout (x.before ++ [.step])

/-- The calls that it asks for. -/
def calls : List (Effect R E) :=
  x.inbound.calls (x.start timeout).link.connection.slot? (lastSubscribed x.before)

/-- How something is taken in by a step of a run. -/
structure IsTakenIn (acts : List (Act R E)) : Prop where
  step : x.before ++ [.step] <+: acts
  /-- The connection is open, and its owner does not want it closed. -/
  isUp : (x.start timeout).link.isUp = true
  /-- What is well formed makes all its calls, and nothing else happens. -/
  called : x.inbound.isFrame = true → x.inbound.violation? = none →
    (x.finish timeout).history = (x.start timeout).history ++
      (.read x.inbound :: x.calls timeout).map .did
  /-- A frame ends the connection when it is malformed, and only then. -/
  ends : x.inbound.isFrame = true →
    ((x.finish timeout).link.connection.IsOver ↔ x.inbound.violation?.isSome)
  /-- The owner is told how the frame breaks the protocol, and no handler of a response or of an
  event is called. -/
  told : ∀ violation, x.inbound.violation? = some violation →
    (x.finish timeout).history = (x.start timeout).history ++
      (.read x.inbound :: ((x.start timeout).link.connection.awaited.map .dropped ++
        [.failed (.violation violation)])).map .did
  /-- A well-formed frame that is not the response to the request in the slot changes nothing. -/
  undisturbed : x.inbound.isFrame = true → x.inbound.violation? = none →
    (∀ p data, (x.start timeout).link.connection.slot? = some p →
      x.inbound.response? ≠ some (p.callbackId, data)) →
    (x.finish timeout).link.connection = (x.start timeout).link.connection

end Reading

/-- What holds of all that is read in a run. -/
structure Demultiplexed (timeout : Nat) (acts : List (Act R E)) (readings : List (Reading R E)) :
    Prop where
  /-- What is read is what arrived first. -/
  order : arrivals acts = readings.map Reading.inbound ++ (after timeout acts).link.unread
  takenIn : ∀ x ∈ readings, x.IsTakenIn timeout acts
  moments : readings.Pairwise fun x y => x.before ++ [.step] <+: y.before
  /-- Handlers of responses and of events are called because of what is read, each time for all of
  it before anything else is read. -/
  calls : (after timeout acts).history.filter Event.isOfFrame =
    readings.flatMap fun x => (.read x.inbound :: x.calls timeout).map .did
  /-- Nothing is read after a malformed frame. -/
  last : ∀ x ∈ readings.dropLast, x.inbound.violation? = none
  isOver : ∀ x ∈ readings, x.inbound.violation?.isSome → (after timeout acts).link.connection.IsOver

namespace Reading

variable {timeout : Nat} {acts : List (Act R E)} {t : Talk R E} {i : Inbound}

theorem IsTakenIn.append {x : Reading R E} (h : x.IsTakenIn timeout acts) (more : List (Act R E)) :
    x.IsTakenIn timeout (acts ++ more) :=
  { h with step := h.step.trans (List.prefix_append _ _) }

/-- When something is read all handlers that were subscribed have been taken. -/
theorem calls_eq (hp : (after timeout acts).link.connection.phase = .talking t)
    (hi : (after timeout acts).link.connection.inbox = []) :
    calls timeout ⟨acts, i⟩ = i.calls t.pending (t.handlers.lookup ·) := by
  have hhandler : lastSubscribed acts = (t.handlers.lookup ·) := by
    funext event
    rw [← forwarder?_after timeout acts (not_isOver_of_talking hp), forwarder?, hi, handlers, hp]
    rfl
  rw [calls, start, hhandler, slot?_of_talking hp]

/-- The run after a step that reads. -/
theorem act_step_of_read {r : Run R E} {rest : List Inbound}
    (hs : r.link.step? r.clock = some (r.link.read t i rest)) :
    (r.act .step).history = r.history ++
        (Effect.read i :: (r.link.connection.receive t i).2).map .did ∧
      (r.act .step).link.connection = (r.link.connection.receive t i).1 := by
  have hact : r.act .step = { r with link := (r.link.read t i rest).1 }.note
      ((Effect.read i :: (r.link.connection.receive t i).2).map .did) := by
    show (r.step?).getD r = _
    simp only [step?, hs, Option.map_some, Option.getD_some]
    rfl
  rw [hact, history_note]
  exact ⟨rfl, rfl⟩

theorem isTakenIn_of_read {rest : List Inbound}
    (hp : (after timeout acts).link.connection.phase = .talking t)
    (hc : (after timeout acts).link.connection.cancelled = false)
    (hi : (after timeout acts).link.connection.inbox = [])
    (hs : (after timeout acts).link.step? (after timeout acts).clock =
      some ((after timeout acts).link.read t i rest)) :
    IsTakenIn timeout ⟨acts, i⟩ (acts ++ [.step]) := by
  obtain ⟨hhistory, hconnection⟩ := act_step_of_read hs
  rw [← after_concat] at hhistory hconnection
  refine ⟨List.prefix_refl _, by simp [start, Link.isUp, hp, hc], ?_, ?_, ?_, ?_⟩
  · intro hframe hwell
    rw [finish, hhistory, (receive_of_wellFormed hframe hwell).1, calls_eq hp hi]
    rfl
  · intro hframe
    rw [finish, hconnection]
    cases hv : i.violation? with
    | none =>
      refine iff_of_false ?_ (by simp)
      rcases (receive_of_wellFormed (c := (after timeout acts).link.connection) (t := t)
        hframe hv).2 with hsame | ⟨⟨t', ht'⟩, -⟩
      · rw [hsame]
        exact not_isOver_of_talking hp
      · exact not_isOver_of_talking ht'
    | some violation =>
      refine iff_of_true ?_ rfl
      rw [receive_of_violation hv, Link.fail_of_talking hp]
      exact .inl rfl
  · intro violation hv
    rw [finish, hhistory, receive_of_violation hv, Link.fail_of_talking hp]
    show _ = _ ++ (_ :: ((after timeout acts).link.connection.awaited.map _ ++ _)).map _
    rw [awaited_of_talking hp]
    rfl
  · intro hframe hwell hother
    rw [finish, hconnection]
    refine (receive_of_wellFormed hframe hwell).2.resolve_right ?_
    rintro ⟨-, p, data, hpend, hr⟩
    exact hother p data ((slot?_of_talking hp).trans hpend) hr

end Reading

variable {r : Run R E}

theorem filter_history_act {a : Act R E} (h : a ≠ .step) :
    (r.act a).history.filter Event.isOfFrame = r.history.filter Event.isOfFrame := by
  cases a with
  | connect =>
    rcases r.act_connect with ⟨-, hact⟩ | hact <;> rw [hact]
    rfl
  | send request handler =>
    rcases r.link.connection.send_cases request handler with ⟨failure, hs⟩ | ⟨-, -, -, hs⟩
    · simp [act, hs, Event.isOfFrame]
    · have hact : r.act (.send request handler) = (r.withConnection { r.link.connection with
          busy := true
          inbox := r.link.connection.inbox ++ [.send request handler] }).note
            [.accepted handler] := by
        simp [act, hs]
      rw [hact, history_note, List.filter_append]
      exact List.append_nil _
  | step => exact absurd rfl h
  | _ => rfl

theorem filter_map_did (effects : List (Effect R E)) :
    (effects.map Event.did).filter Event.isOfFrame =
      (effects.filter Effect.isOfFrame).map .did := by
  rw [List.filter_map]
  rfl

/-- A step that reads nothing calls no handler of a response or of an event. -/
theorem filter_history_step (r : Run R E) :
    (∃ t i rest, r.link.connection.phase = .talking t ∧ r.link.connection.cancelled = false ∧
      r.link.connection.inbox = [] ∧ r.link.step? r.clock = some (r.link.read t i rest)) ∨
    (r.act .step).history.filter Event.isOfFrame = r.history.filter Event.isOfFrame := by
  show _ ∨ ((r.step?.getD r).history).filter _ = _
  cases hs : r.link.step? r.clock with
  | none => exact .inr (by simp [step?, hs])
  | some done =>
    have hstep : r.step? = some ({ r with link := done.1 }.note (done.2.map .did)) := by
      simp [step?, hs]
    rcases Link.step?_read_or_not hs with ⟨t, i, rest, hp, hc, hi, -, heq⟩ | ⟨-, hnone⟩
    · exact .inl ⟨t, i, rest, hp, hc, hi, heq ▸ rfl⟩
    · right
      have hempty : done.2.filter Effect.isOfFrame = [] :=
        List.filter_eq_nil_iff.2 fun e he => by simp [hnone e he]
      rw [hstep, Option.getD_some, history_note, List.filter_append, filter_map_did, hempty]
      exact List.append_nil _

/-- What was read is told by the record of what came of frames. -/
theorem reads_filter (history : List (Event R E)) :
    Run.reads (history.filter Event.isOfFrame) = Run.reads history := by
  rw [Run.reads, List.filterMap_filter]
  refine congrArg (List.filterMap · history) (funext fun e => ?_)
  cases e with
  | did effect => cases effect <;> rfl
  | accepted => rfl
  | refused => rfl

theorem reads_calls (x : Reading R E) (timeout : Nat) :
    reads ((Effect.read x.inbound :: x.calls timeout).map Event.did) = [x.inbound] := by
  have hcalls : ∀ i, Effect.read i ∉ x.calls timeout := by
    intro i hmem
    unfold Reading.calls Inbound.calls at hmem
    split at hmem
    · split at hmem
      · rcases Frame.mem_calls hmem with ⟨_, _, he⟩ | ⟨_, _, _, he⟩ <;> cases he
      · cases hmem
    · cases hmem
  show x.inbound :: reads ((x.calls timeout).map Event.did) = _
  rw [reads_of_not_read fun i hmem => hcalls i (by simpa using hmem)]

variable {timeout : Nat} {acts : List (Act R E)} {readings : List (Reading R E)}

/-- The order of what is read follows from what comes of it. -/
theorem order_of_calls (h : (after timeout acts).history.filter Event.isOfFrame =
    readings.flatMap fun x => (.read x.inbound :: x.calls timeout).map .did) :
    arrivals acts = readings.map Reading.inbound ++ (after timeout acts).link.unread := by
  have hreads : reads (after timeout acts).history = readings.map Reading.inbound := by
    rw [← reads_filter, h]
    clear h
    induction readings with
    | nil => rfl
    | cons x readings ih => rw [List.flatMap_cons, reads_append, ih, reads_calls]; rfl
  rw [arrivals_eq, hreads]

/-- An act that reads nothing. -/
theorem Demultiplexed.keep (h : Demultiplexed timeout acts readings) {a : Act R E}
    (hsame : ((after timeout acts).act a).history.filter Event.isOfFrame =
      (after timeout acts).history.filter Event.isOfFrame) :
    Demultiplexed timeout (acts ++ [a]) readings := by
  have hcalls := (after_concat timeout acts a ▸ hsame).trans h.calls
  refine ⟨order_of_calls hcalls, fun x hx => (h.takenIn x hx).append _, h.moments, hcalls,
    h.last, ?_⟩
  intro x hx hv
  rw [after_concat]
  exact isOver_act a (h.isOver x hx hv)

/-- A step that reads something. -/
theorem Demultiplexed.read (h : Demultiplexed timeout acts readings) {t : Talk R E} {i : Inbound}
    {rest : List Inbound} (hp : (after timeout acts).link.connection.phase = .talking t)
    (hc : (after timeout acts).link.connection.cancelled = false)
    (hi : (after timeout acts).link.connection.inbox = [])
    (hs : (after timeout acts).link.step? (after timeout acts).clock =
      some ((after timeout acts).link.read t i rest)) :
    Demultiplexed timeout (acts ++ [.step]) (readings ++ [⟨acts, i⟩]) := by
  have htaken := Reading.isTakenIn_of_read hp hc hi hs
  have hcalls : (after timeout (acts ++ [.step])).history.filter Event.isOfFrame =
      (readings ++ [Reading.mk acts i]).flatMap fun x =>
        (Effect.read x.inbound :: x.calls timeout).map .did := by
    rw [after_concat, (Reading.act_step_of_read hs).1, List.filter_append, h.calls,
      filter_map_did, List.filter_cons_of_pos rfl, filter_receive hp, ← Reading.calls_eq hp hi,
      List.flatMap_append, List.flatMap_singleton]
  -- Something is read only while the connection is open, so nothing before it was malformed.
  have hwell : ∀ x ∈ readings, x.inbound.violation? = none := by
    intro x hx
    rw [← Option.not_isSome_iff_eq_none]
    exact fun hv => not_isOver_of_talking hp (h.isOver x hx hv)
  have hmoments : (readings ++ [Reading.mk acts i]).Pairwise fun x y =>
      x.before ++ [.step] <+: y.before := by
    refine List.pairwise_append.2 ⟨h.moments, List.pairwise_singleton _ _, fun x hx y hy => ?_⟩
    rw [List.mem_singleton.1 hy]
    exact (h.takenIn x hx).step
  refine ⟨order_of_calls hcalls, ?_, hmoments, hcalls, ?_, ?_⟩
  · intro x hx
    rcases List.mem_append.1 hx with hx | hx
    · exact (h.takenIn x hx).append _
    · rw [List.mem_singleton.1 hx]
      exact htaken
  · rw [List.dropLast_concat]
    exact hwell
  · intro x hx hv
    rcases List.mem_append.1 hx with hx | hx
    · rw [hwell x hx] at hv
      cases hv
    · rw [List.mem_singleton.1 hx] at hv
      exact (htaken.ends (Inbound.isFrame_of_violation hv)).2 hv

/-- **Everything that is read reaches the handlers that it is meant for, and nothing else does.** A
connection reads what arrived first. A frame ends it exactly when it is malformed: the owner is told
so, and no handler of a response or of an event is called. Every frame before it made all the calls
that it asks for, in their order, and before the next frame was read: a response calls the handler
of the request in the slot if it has its number, and an event calls the handler that was last
subscribed for it. All other frames change nothing. An open connection whose commands have been
taken reads what has arrived. A batch of events is malformed when one of its elements is. -/
theorem frames_demultiplexed (timeout : Nat) (acts : List (Act R E)) :
    (∃ readings, Demultiplexed timeout acts readings) ∧
    ((after timeout acts).link.isUp = true → (after timeout acts).link.connection.inbox = [] →
      ∀ i rest, (after timeout acts).link.unread = i :: rest → ∃ l' effects,
        (after timeout acts).link.step? (after timeout acts).clock = some (l', effects) ∧
          .read i ∈ effects) ∧
    ∀ text envelope items, Envelope.parse text = .ok envelope → envelope.callbackId < 0 →
      envelope.eventList = true → envelope.data = .array items →
      ((Inbound.text text).violation?.isSome ↔ ∃ v ∈ items, ∀ e, PushEvent.ofJson v ≠ .ok e) := by
  refine ⟨?_, ?_, fun _ _ _ => Inbound.isSome_violation?_of_batch⟩
  · induction acts using List.reverseRecOn with
    | nil => exact ⟨[], rfl, by simp, .nil, rfl, by simp, by simp⟩
    | append_singleton acts a ih =>
      obtain ⟨readings, h⟩ := ih
      by_cases ha : a = .step
      · subst ha
        rcases (after timeout acts).filter_history_step with ⟨t, i, rest, hp, hc, hi, hs⟩ | hsame
        · exact ⟨_, h.read hp hc hi hs⟩
        · exact ⟨readings, h.keep hsame⟩
      · exact ⟨readings, h.keep (filter_history_act ha)⟩
  · intro hup hi i rest hu
    unfold Link.isUp at hup
    split at hup
    · rename_i t hp
      have hlive : (after timeout acts).link.connection.cancelled = false := by simpa using hup
      exact ⟨_, _, Link.step?_eq_read hp hlive hi hu, List.mem_cons_self⟩
    · cases hup

/-- A batch of one event, and one whose second element is malformed. -/
def sampleBatches : List (Act Nat Nat) :=
  [.connect, .offer (.ok ()), .step, .subscribe "temp" 1, .subscribe "temp" 2, .step, .step,
    .arrive (.text
      "\x7b\x22eventList\x22:true,\x22data\x22:[\x7b\x22event\x22:\x22temp\x22\x7d]\x7d"),
    .arrive (.text
      "\x7b\x22eventList\x22:true,\x22data\x22:[\x7b\x22event\x22:\x22temp\x22\x7d,1]\x7d"),
    .step, .step]

example : (after 500 sampleBatches).history.filter (fun e => e.isCall) =
    [.did .opened, .did (.delivered 2 "" .null),
      .did (.failed (.violation (.eventList
        (.wrongKind (.number (.integer (.ofWord 1))) (.record "PushEvent")))))] := by
  decide +kernel

end Run

end Connection

end PrintClient
