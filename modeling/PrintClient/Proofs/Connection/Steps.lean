import PrintClient.Connection.Link

/-!
# What a connection does next

The steps of a link, told by what they do to its connection and by their effects.

* `Connection.requests`, `IsFree`, `IsOver`: what matters of a connection to its owner;
* `Connection.send_eq_ok`, `IsFree.send`: what becomes of a connection that takes a request, and
  when it takes one;
* `Link.TalkStep`: the steps of an open connection that nobody wants closed. `talkStep_of_step?`
  says that there are no others;
* `Link.WriteStep`, `writeStep_of_step?`: the steps of a connection that writes;
* `Link.step?_eq_none_of_talking`, `step?_eq_none_of_writing`: an open connection that waits has
  nothing in store, and one that writes waits for the transport alone;
* `Link.step?_of_opening`, `step?_of_isOver`, `step?_of_cancelled`: the steps of all others. A
  connection that is to be closed tells nobody anything;
* `Link.step?_of_unmatched`: a response that nobody awaits is passed over.
-/

namespace PrintClient

/-- The number and the data of a text that is a response. -/
def Frame.response? (text : String) : Option (Nat × Json) :=
  match Frame.parse text with
  | .ok (.response id data) => some (id, data)
  | _ => none

theorem Frame.response?_eq_some {text : String} {id : Nat} {data : Json} :
    Frame.response? text = some (id, data) ↔ Frame.parse text = .ok (.response id data) := by
  unfold Frame.response?
  split
  · rename_i id' data' h
    rw [h]
    simp
  · rename_i h
    exact ⟨fun h' => by simp at h', fun h' => absurd h' (h id data)⟩

theorem Frame.response?_eq_none {text : String}
    (h : ∀ id data, Frame.parse text ≠ .ok (.response id data)) : Frame.response? text = none := by
  unfold Frame.response?
  split
  · rename_i h'
    exact absurd h' (h _ _)
  · rfl

namespace Connection

variable {R E : Type}

/-- The request that a command sends, with its handler. -/
def Command.request? : Command R E → Option (Request × R)
  | .send request handler => some (request, handler)
  | .subscribe .. => none

/-- The requests in the inbox, with their handlers. -/
def requests (c : Connection R E) : List (Request × R) := c.inbox.filterMap Command.request?

/-- Open, and neither in the inbox nor in the slot for responses is there a request. -/
structure IsFree (c : Connection R E) (t : Talk R E) : Prop where
  phase : c.phase = .talking t
  pending : t.pending = none
  requests : c.requests = []
  busy : c.busy = false

/-- An effect that is about no request and of which the owner is told nothing, events aside. -/
def Effect.IsQuiet : Effect R E → Prop
  | .read _ | .delivered .. | .dropped _ => True
  | _ => False

/-- An effect that nobody is told of: a handler is given up, or the time for a response begins. -/
def Effect.IsSilent : Effect R E → Prop
  | .dropped _ | .armed .. => True
  | _ => False

/-- Done with its work. -/
def IsOver (c : Connection R E) : Prop := c.phase = .closing ∨ c.phase = .ended

/-- The same to its owner: only handlers of events and the wish to end may differ. -/
structure Alike (c c' : Connection R E) : Prop where
  phase : c'.phase = c.phase
  requests : c'.requests = c.requests
  busy : c'.busy = c.busy

theorem Alike.refl (c : Connection R E) : c.Alike c := ⟨rfl, rfl, rfl⟩

theorem Alike.isFree {c c' : Connection R E} {t : Talk R E} (ha : c.Alike c') (h : c.IsFree t) :
    c'.IsFree t :=
  ⟨ha.phase.trans h.phase, h.pending, ha.requests.trans h.requests, ha.busy.trans h.busy⟩

theorem Alike.isOver {c c' : Connection R E} (ha : c.Alike c') (h : c.IsOver) : c'.IsOver := by
  rw [IsOver, ha.phase]
  exact h

/-! ### What the owner does -/

theorem send_eq_ok {c c' : Connection R E} {request : Request} {handler : R}
    (h : c.send request handler = .ok c') :
    c' = { c with busy := true, inbox := c.inbox ++ [.send request handler] } := by
  unfold send at h
  split at h
  · cases h
  · split at h
    · cases h
    · split at h <;> cases h
      rfl

theorem IsFree.send {c : Connection R E} {t : Talk R E} (hf : c.IsFree t) (request : Request)
    (handler : R) : c.send request handler =
      .ok { c with busy := true, inbox := c.inbox ++ [.send request handler] } := by
  simp [Connection.send, hf.phase, hf.busy]

/-- The handler of an event is no matter of requests. -/
theorem alike_subscribe (c : Connection R E) (event : String) (handler : E) :
    c.Alike (c.subscribe event handler) := by
  unfold subscribe
  split
  · exact .refl c
  · exact ⟨rfl, by simp [requests, Command.request?], rfl⟩

@[simp] theorem cancelled_subscribe (c : Connection R E) (event : String) (handler : E) :
    (c.subscribe event handler).cancelled = c.cancelled := by
  unfold subscribe
  split <;> rfl

end Connection

namespace Link

open Connection

variable {R E : Type} {l l' : Link R E} {t : Talk R E} {now : Nat} {effects : List (Effect R E)}

/-- What can come of a step of an open connection that nobody wants closed. -/
inductive TalkStep (l : Link R E) (t : Talk R E) (now : Nat) : Link R E → List (Effect R E) → Prop
  | subscribed {event : String} {handler : E} {rest : List (Command R E)}
      (inbox : l.connection.inbox = .subscribe event handler :: rest) :
      TalkStep l t now
        { l with connection := { l.connection with
            inbox := rest
            phase := .talking { t with
              handlers := (event, handler) :: t.handlers.filter fun h => h.1 ≠ event } } } []
  | wrote {request : Request} {handler : R} {rest : List (Command R E)}
      (inbox : l.connection.inbox = .send request handler :: rest) (pending : t.pending = none)
      (writable : l.writeFault = none) :
      TalkStep l t now
        { l with connection := { l.connection with
            inbox := rest
            phase := .writing { t with lastId := t.lastId + 1, pending := none } handler } }
        [.wrote (t.lastId + 1) request handler]
  /-- Another request awaits its response. -/
  | givenUp {request : Request} {handler : R} {rest : List (Command R E)} {p : Pending R}
      (inbox : l.connection.inbox = .send request handler :: rest) (pending : t.pending = some p) :
      TalkStep l t now { l with connection := { l.connection with inbox := rest } }
        [.dropped handler]
  | unwritable {request : Request} {handler : R} {rest : List (Command R E)} {reason : String}
      (inbox : l.connection.inbox = .send request handler :: rest) (pending : t.pending = none)
      (fault : l.writeFault = some reason) :
      TalkStep l t now
        { l with connection := { l.connection with
            inbox := rest
            phase := .closing
            busy := false } }
        [.dropped handler, .failed (.webSocket reason)]
  /-- What was read neither answers the request that awaits its response nor ends the connection. -/
  | read {i : Inbound} {rest : List Inbound} {deliveries : List (Effect R E)}
      (inbox : l.connection.inbox = []) (unread : l.unread = i :: rest)
      (unmatched : ∀ frame id data, i = .text frame → Frame.response? frame = some (id, data) →
        deliveries = [] ∧ ∀ p, t.pending = some p → p.callbackId ≠ id)
      (delivered : ∀ e ∈ deliveries, ∃ handler printer data, e = .delivered handler printer data) :
      TalkStep l t now { l with unread := rest } (.read i :: deliveries)
  | answered {frame : String} {rest : List Inbound} {data : Json} {p : Pending R}
      (inbox : l.connection.inbox = []) (unread : l.unread = .text frame :: rest)
      (pending : t.pending = some p)
      (response : Frame.response? frame = some (p.callbackId, data)) :
      TalkStep l t now
        { l with
          unread := rest
          connection := { l.connection with
            phase := .talking { t with pending := none }
            busy := false } }
        [.read (.text frame), .answered p.handler data]
  | failed {i : Inbound} {rest : List Inbound} {failure : Failure}
      (inbox : l.connection.inbox = []) (unread : l.unread = i :: rest)
      (noResponse : ∀ frame, i = .text frame → Frame.response? frame = none) :
      TalkStep l t now
        { l with
          unread := rest
          connection := { l.connection with phase := .closing, busy := false } }
        (.read i :: (t.awaited.map .dropped ++ [.failed failure]))
  | expired {p : Pending R} (inbox : l.connection.inbox = []) (unread : l.unread = [])
      (pending : t.pending = some p) (due : p.deadline ≤ now) :
      TalkStep l t now
        { l with connection := { l.connection with
            phase := .talking { t with pending := none }
            busy := false } }
        [.failed (.timeout p.callbackId (min l.connection.timeout longestReport)),
          .dropped p.handler]

/-- What can come of a step of a connection that writes. -/
inductive WriteStep (l : Link R E) (t : Talk R E) (handler : R) (now : Nat) :
    Link R E → List (Effect R E) → Prop
  | armed (writable : l.writeFault = none) (flowing : l.stalled = false) :
      WriteStep l t handler now
        { l with connection := { l.connection with
            phase := .talking { t with
              pending := some ⟨t.lastId, handler, now + l.connection.timeout⟩ } } }
        [.armed t.lastId handler]
  | unwritable {reason : String} (fault : l.writeFault = some reason)
      (live : l.connection.cancelled = false) :
      WriteStep l t handler now
        { l with connection := { l.connection with phase := .closing, busy := false } }
        [.dropped handler, .failed (.webSocket reason)]
  /-- The owner wants the connection closed, and is not told that the transport failed. -/
  | brokenOff {reason : String} (fault : l.writeFault = some reason)
      (wish : l.connection.cancelled = true) :
      WriteStep l t handler now
        { l with connection := { l.connection with phase := .closing, busy := false } }
        [.dropped handler]

theorem fail_of_talking {c : Connection R E} (h : c.phase = .talking t) (failure : Failure) :
    c.fail failure =
      ({ c with phase := .closing, busy := false },
        t.awaited.map .dropped ++ [.failed failure]) := by
  simp [Connection.fail, Connection.awaited, h]

/-- The command at the head of the inbox. -/
theorem talkStep_takeCommand {command : Command R E} {rest : List (Command R E)}
    (hp : l.connection.phase = .talking t) (hi : l.connection.inbox = command :: rest) :
    TalkStep l t now (l.after (l.connection.takeCommand t l.writeFault)).1
      (l.after (l.connection.takeCommand t l.writeFault)).2 := by
  cases command with
  | subscribe event handler =>
    simp only [takeCommand, hi]
    exact .subscribed hi
  | send request handler =>
    simp only [takeCommand, hi, write]
    cases hpend : t.pending with
    | some p => exact .givenUp hi hpend
    | none =>
      cases hf : l.writeFault with
      | none => exact .wrote hi hpend hf
      | some reason =>
        have hfail := fail_of_talking (c := { l.connection with inbox := rest }) hp
          (.webSocket reason)
        have hawaited : t.awaited = [] := by simp [Talk.awaited, hpend]
        simp only [hfail, hawaited]
        exact .unwritable hi hpend hf

section Read

variable {i : Inbound} {rest : List Inbound} (hp : l.connection.phase = .talking t)
  (hi : l.connection.inbox = []) (hu : l.unread = i :: rest)

include hp hi hu

theorem talkStep_of_fail {failure : Failure}
    (hno : ∀ frame, i = .text frame → Frame.response? frame = none)
    (heq : l.connection.receive t i = l.connection.fail failure) :
    TalkStep l t now (l.read t i rest).1 (l.read t i rest).2 := by
  simp only [Link.read, heq, fail_of_talking hp]
  exact .failed hi hu hno

omit hp in
theorem talkStep_of_unchanged {deliveries : List (Effect R E)}
    (heq : l.connection.receive t i = (l.connection, deliveries))
    (hno : ∀ frame id data, i = .text frame → Frame.response? frame = some (id, data) →
      deliveries = [] ∧ ∀ p, t.pending = some p → p.callbackId ≠ id)
    (hd : ∀ e ∈ deliveries, ∃ handler printer data, e = .delivered handler printer data) :
    TalkStep l t now (l.read t i rest).1 (l.read t i rest).2 := by
  simp only [Link.read, heq]
  exact .read hi hu hno hd

omit hp in
/-- A response answers the request with its number, or it is passed over. -/
theorem talkStep_of_response {frame : String} {id : Nat} {data : Json} (hframe : i = .text frame)
    (hresponse : Frame.response? frame = some (id, data))
    (heq : l.connection.receive t i = l.connection.resolve t id data) :
    TalkStep l t now (l.read t i rest).1 (l.read t i rest).2 := by
  subst hframe
  by_cases hmatch : ∃ p, t.pending = some p ∧ p.callbackId = id
  · obtain ⟨p, hpend, rfl⟩ := hmatch
    simp only [Link.read, heq, resolve, hpend, if_true]
    exact .answered hi hu hpend hresponse
  · have hsame : l.connection.resolve t id data = (l.connection, []) := by
      unfold resolve
      cases hpend : t.pending with
      | none => rfl
      | some p => exact if_neg fun hid => hmatch ⟨p, hpend, hid⟩
    refine talkStep_of_unchanged hi hu (heq.trans hsame) ?_ (by simp)
    rintro _ id' data' ⟨⟩ hr
    rw [hresponse] at hr
    cases hr
    exact ⟨rfl, fun p hpend hid => hmatch ⟨p, hpend, hid⟩⟩

/-- What was read first. -/
theorem talkStep_read : TalkStep l t now (l.read t i rest).1 (l.read t i rest).2 := by
  cases i with
  | binary => exact talkStep_of_unchanged hi hu rfl (by simp) (by simp)
  | control => exact talkStep_of_unchanged hi hu rfl (by simp) (by simp)
  | close payload => exact talkStep_of_fail hp hi hu (by simp) rfl
  | broken reason => exact talkStep_of_fail hp hi hu (by simp) rfl
  | ended => exact talkStep_of_fail hp hi hu (by simp) rfl
  | text frame =>
    cases hparse : Frame.parse frame with
    | error violation =>
      have hrec : l.connection.receive t (.text frame) =
          l.connection.fail (.violation violation) := by
        simp only [receive, hparse]
      refine talkStep_of_fail hp hi hu ?_ hrec
      rintro _ ⟨⟩
      exact Frame.response?_eq_none (by simp [hparse])
    | ok f =>
      have hrec : l.connection.receive t (.text frame) = l.connection.dispatch t f := by
        simp only [receive, hparse]
      -- Only a response can match the request that awaits one.
      have hnone : (∀ id data, f ≠ .response id data) → Frame.response? frame = none :=
        fun hf => Frame.response?_eq_none fun id data h => hf id data (by simpa [hparse] using h)
      cases f with
      | ignored =>
        refine talkStep_of_unchanged hi hu hrec ?_ (by simp)
        rintro _ id data ⟨⟩ hr
        rw [hnone (by simp)] at hr
        cases hr
      | events batch =>
        refine talkStep_of_unchanged hi hu hrec ?_ fun e he => ?_
        · rintro _ id data ⟨⟩ hr
          rw [hnone (by simp)] at hr
          cases hr
        · obtain ⟨event, -, hd⟩ := List.mem_filterMap.1 he
          obtain ⟨handler, -, rfl⟩ := Option.map_eq_some_iff.1 hd
          exact ⟨_, _, _, rfl⟩
      | response id data =>
        exact talkStep_of_response hi hu rfl (Frame.response?_eq_some.2 hparse) hrec

end Read

/-- **An open connection that nobody wants closed does nothing else.** -/
theorem talkStep_of_step? (hp : l.connection.phase = .talking t)
    (hc : l.connection.cancelled = false) (h : l.step? now = some (l', effects)) :
    TalkStep l t now l' effects := by
  simp only [step?, hp, hc, Bool.false_eq_true, if_false, talkStep?] at h
  split at h
  · rename_i command rest hi
    cases h
    exact talkStep_takeCommand hp hi
  · rename_i i rest hi hu
    cases h
    exact talkStep_read hp hi hu
  · rename_i hi hu
    cases hpend : t.pending with
    | none => simp [isDue, hpend] at h
    | some p =>
      by_cases hdue : p.deadline ≤ now
      · simp only [isDue, hpend, expire, Link.after, hdue, decide_true, if_true] at h
        cases h
        exact .expired hi hu hpend hdue
      · simp [isDue, hpend, hdue] at h

/-- An open connection waits when nothing is left to read, to send, or to give up. -/
theorem step?_eq_none_of_talking (hp : l.connection.phase = .talking t)
    (hc : l.connection.cancelled = false) :
    l.step? now = none ↔ l.connection.inbox = [] ∧ l.unread = [] ∧ isDue t now = false := by
  simp only [step?, hp, hc, Bool.false_eq_true, if_false, talkStep?]
  split
  · rename_i hi
    simp [hi]
  · rename_i hu
    simp [hu]
  · rename_i hi hu
    simp [hi, hu]

/-! ### Other steps -/

section Write

variable {handler : R} (hp : l.connection.phase = .writing t handler)

include hp

/-- **A connection that writes does nothing else.** -/
theorem writeStep_of_step? (h : l.step? now = some (l', effects)) :
    WriteStep l t handler now l' effects := by
  simp only [step?, hp, writeStep?] at h
  cases hf : l.writeFault with
  | none =>
    cases hs : l.stalled with
    | false =>
      simp only [hf, hs, Bool.false_eq_true, if_false, Option.some.injEq] at h
      cases h
      exact .armed hf hs
    | true => simp [hf, hs] at h
  | some reason =>
    have hawaited : l.connection.awaited = [handler] := by rw [Connection.awaited, hp]
    simp only [hf, breakOff, Connection.fail, hawaited] at h
    split at h
    · rename_i hwish
      cases h
      exact .brokenOff hf hwish
    · rename_i hlive
      cases h
      exact .unwritable hf (Bool.not_eq_true _ ▸ hlive)

/-- A connection that writes waits exactly while the transport takes nothing and does not fail. -/
theorem step?_eq_none_of_writing :
    l.step? now = none ↔ l.writeFault = none ∧ l.stalled = true := by
  simp only [step?, hp, writeStep?]
  cases l.writeFault with
  | none => cases l.stalled <;> simp
  | some reason => simp

end Write

/-- On its way to the server a connection only waits for the way to end. -/
theorem step?_of_opening (hp : l.connection.phase = .opening) (hc : l.connection.cancelled = false)
    (h : l.step? now = some (l', effects)) :
    (l' = { l with connection := { l.connection with phase := .talking .start } } ∧
      effects = [.opened]) ∨
    ∃ failure, effects = [.failed failure] ∧
      l' = { l with connection := { l.connection with phase := .closing, busy := false } } := by
  simp only [step?, hp, hc, Bool.false_eq_true, if_false, openStep?] at h
  split at h
  · cases h
    exact .inl ⟨rfl, rfl⟩
  · rename_i failure _
    have hf : l.connection.fail failure =
        ({ l.connection with phase := .closing, busy := false }, [.failed failure]) := by
      simp [Connection.fail, Connection.awaited, hp]
    rw [hf] at h
    cases h
    exact .inr ⟨failure, rfl, rfl⟩
  · cases h

/-- A connection that is done with its work only gives up what is left in its inbox. -/
theorem step?_of_isOver (ho : l.connection.IsOver) (h : l.step? now = some (l', effects)) :
    l'.connection.IsOver ∧ ∀ e ∈ effects, ∃ handler, e = .dropped handler := by
  rcases ho with hp | hp
  · simp only [step?, hp, Option.some.injEq] at h
    cases h
    exact ⟨.inr rfl, by simp [Connection.finish]⟩
  · simp [step?, hp] at h

theorem isSilent_of_dropped (h : ∀ e ∈ effects, ∃ handler, e = .dropped handler) :
    ∀ e ∈ effects, e.IsSilent := by
  intro e he
  obtain ⟨handler, rfl⟩ := h e he
  trivial

/-- A connection that is to be closed tells nobody anything. -/
theorem step?_of_cancelled (hc : l.connection.cancelled = true)
    (h : l.step? now = some (l', effects)) : ∀ e ∈ effects, e.IsSilent := by
  cases hp : l.connection.phase with
  | idle => simp [step?, hp] at h
  | opening =>
    simp only [step?, hp, hc, if_true, stop, Option.some.injEq] at h
    cases h
    exact isSilent_of_dropped (by simp [Connection.finish])
  | talking t =>
    simp only [step?, hp, hc, if_true, stop, Option.some.injEq] at h
    cases h
    exact isSilent_of_dropped (by simp)
  | writing t handler =>
    cases writeStep_of_step? hp h with
    | armed => exact List.forall_mem_singleton.2 trivial
    | unwritable _ live =>
      rw [hc] at live
      cases live
    | brokenOff => exact List.forall_mem_singleton.2 trivial
  | closing => exact isSilent_of_dropped (step?_of_isOver (.inl hp) h).2
  | ended => exact isSilent_of_dropped (step?_of_isOver (.inr hp) h).2

/-- A response to another request than the one that awaits its response is read and passed over. -/
theorem step?_of_unmatched {frame : String} {n : Nat} {data : Json}
    (h : l.step? now = some (l', effects)) (hread : .read (.text frame) ∈ effects)
    (hr : Frame.response? frame = some (n, data))
    (hp : ∀ t p, l.connection.phase = .talking t → t.pending = some p → p.callbackId ≠ n) :
    ∃ rest, l.unread = .text frame :: rest ∧ l' = { l with unread := rest } ∧
      effects = [.read (.text frame)] := by
  -- A step that nobody is told of reads nothing, so the connection is open and goes on.
  have hnot : (∀ e ∈ effects, e.IsSilent) → False := fun hd => (hd _ hread).elim
  cases hc : l.connection.cancelled with
  | true => exact (hnot (step?_of_cancelled hc h)).elim
  | false =>
    cases hphase : l.connection.phase with
    | idle => simp [step?, hphase] at h
    | opening =>
      rcases step?_of_opening hphase hc h with ⟨-, rfl⟩ | ⟨failure, rfl, -⟩
      · simp at hread
      · simp at hread
    | closing => exact (hnot (isSilent_of_dropped (step?_of_isOver (.inl hphase) h).2)).elim
    | ended => exact (hnot (isSilent_of_dropped (step?_of_isOver (.inr hphase) h).2)).elim
    | writing t handler => cases writeStep_of_step? hphase h <;> simp at hread
    | talking t =>
      cases talkStep_of_step? hphase hc h with
      | subscribed => simp at hread
      | wrote => simp at hread
      | givenUp => simp at hread
      | unwritable => simp at hread
      | @read i rest deliveries _ unread unmatched delivered =>
        have hi : i = .text frame := by
          rcases List.mem_cons.1 hread with hi | hmem
          · cases hi
            rfl
          · obtain ⟨_, _, _, he⟩ := delivered _ hmem
            cases he
        subst hi
        obtain ⟨rfl, -⟩ := unmatched frame n data rfl hr
        exact ⟨rest, unread, rfl, rfl⟩
      | @answered frame' _ _ p _ _ pending response =>
        obtain rfl : frame = frame' := by simpa using hread
        rw [hr] at response
        cases response
        exact absurd rfl (hp t p hphase pending)
      | @failed i _ failure _ _ noResponse =>
        have hi : .text frame = i := by simpa using hread
        rw [noResponse frame hi.symm] at hr
        cases hr
      | expired => simp at hread

/-- Nothing that a connection does by itself takes its owner's wish to close it back. -/
theorem step?_cancelled (h : l.step? now = some (l', effects)) :
    l'.connection.cancelled = l.connection.cancelled := by
  cases hp : l.connection.phase with
  | idle => simp [step?, hp] at h
  | opening =>
    cases hc : l.connection.cancelled with
    | true =>
      simp only [step?, hp, hc, if_true, stop, Option.some.injEq] at h
      cases h
      exact hc
    | false =>
      rcases step?_of_opening hp hc h with ⟨rfl, -⟩ | ⟨failure, -, rfl⟩
      · exact hc
      · exact hc
  | talking t =>
    cases hc : l.connection.cancelled with
    | true =>
      simp only [step?, hp, hc, if_true, stop, Option.some.injEq] at h
      cases h
      rfl
    | false => cases talkStep_of_step? hp hc h <;> exact hc
  | writing t handler => cases writeStep_of_step? hp h <;> rfl
  | closing =>
    simp only [step?, hp, Option.some.injEq] at h
    cases h
    rfl
  | ended => simp [step?, hp] at h

end Link

/-- A connection without a request goes on without one, or fails while it reads. -/
theorem Connection.IsFree.step {R E : Type} {l l' : Link R E} {t : Talk R E} {now : Nat}
    {effects : List (Effect R E)} (hf : l.connection.IsFree t) (h : l.TalkStep t now l' effects) :
    (∃ t', l'.connection.IsFree t' ∧ t'.lastId = t.lastId ∧ ∀ e ∈ effects, e.IsQuiet) ∨
      (l'.connection.IsOver ∧ ∃ i failure, effects = [.read i, .failed failure]) := by
  have hp := hf.pending
  have hr := hf.requests
  cases h with
  | subscribed inbox =>
    simp only [Connection.requests, inbox, List.filterMap_cons] at hr
    exact .inl ⟨_, ⟨rfl, hp, hr, hf.busy⟩, rfl, by simp⟩
  | wrote inbox => simp [Connection.requests, inbox, Command.request?] at hr
  | givenUp inbox pending => simp [hp] at pending
  | unwritable inbox => simp [Connection.requests, inbox, Command.request?] at hr
  | @read i _ _ _ _ _ delivered =>
    refine .inl ⟨t, hf, rfl, fun e he => ?_⟩
    rcases List.mem_cons.1 he with rfl | he
    · trivial
    · obtain ⟨handler, printer, data, rfl⟩ := delivered e he
      trivial
  | answered _ _ pending => simp [hp] at pending
  -- No handler is given up, since no request awaits its response.
  | @failed i _ failure => exact .inr ⟨.inl rfl, i, failure, by simp [Talk.awaited, hp]⟩
  | expired _ _ pending => simp [hp] at pending

end PrintClient
