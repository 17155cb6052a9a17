import Mathlib.Data.List.Induction
import PrintClient.Connection.Run
import PrintClient.Proofs.Connection.Reading

/-!
# Runs of a connection, act by act

What an act makes of a run is told here once, for every phase of the connection. A handler that
hands a request in while it is called does so right after the step that calls it, since a step calls
the handlers of responses and of failures last.

* `Link.Move`: the steps of a connection in any phase; `move_of_step?` says that there are no
  others;
* `Link.kind_of_failed`: only an open connection that has nothing left to take or to read tells of a
  response that did not come;
* `Link.calls_last`: handlers of responses and of failures are called last;
* `Run.after`, `Run.history`: the run after a list of acts, and what happened in it;
* `Run.Did`, `did_act`: what can come of an act;
* `cancelled_act`, `clock_act`, `outcome_act`, `trace_act`: what acts leave as it is;
* `after_induction`: what holds at the start and is kept by every act of a run holds of every run;
* `cancelled_after`, `offer_of_outcome`: what only the owner or the transport brings about.
-/

namespace PrintClient

open Connection

variable {R E : Type}

/-- Whether the handler of a response or of failures is called. -/
def Connection.Effect.isReport : Effect R E → Bool
  | .answered .. | .failed _ => true
  | _ => false

namespace Link

variable {l l' : Link R E} {now : Nat} {effects : List (Effect R E)}

/-- What can come of a step of a connection. -/
inductive Move (l : Link R E) (now : Nat) : Link R E → List (Effect R E) → Prop
  | opened (phase : l.connection.phase = .opening) (live : l.connection.cancelled = false)
      (outcome : l.outcome = some (.ok ())) :
      Move l now { l with connection := { l.connection with phase := .talking .start } } [.opened]
  | refused {failure : Failure} (phase : l.connection.phase = .opening)
      (live : l.connection.cancelled = false) (outcome : l.outcome = some (.error failure)) :
      Move l now { l with connection := { l.connection with phase := .closing, busy := false } }
        [.failed failure]
  | talked {t : Talk R E} {l' : Link R E} {effects : List (Effect R E)}
      (phase : l.connection.phase = .talking t) (live : l.connection.cancelled = false)
      (step : l.TalkStep t now l' effects) : Move l now l' effects
  | wrote {t : Talk R E} {handler : R} {l' : Link R E} {effects : List (Effect R E)}
      (phase : l.connection.phase = .writing t handler)
      (step : l.WriteStep t handler now l' effects) : Move l now l' effects
  /-- The owner wants an open connection closed. -/
  | stopped {t : Talk R E} (phase : l.connection.phase = .talking t)
      (wish : l.connection.cancelled = true) :
      Move l now { l with connection := { l.connection with phase := .closing, busy := false } }
        (t.awaited.map .dropped)
  | finished (done : l.connection.phase = .opening ∧ l.connection.cancelled = true ∨
        l.connection.phase = .closing) :
      Move l now { l with connection := { l.connection with phase := .ended, inbox := [] } }
        (l.connection.waiting.map .dropped)

/-- **Every step of a connection is one of these.** -/
theorem move_of_step? (h : l.step? now = some (l', effects)) : l.Move now l' effects := by
  cases hp : l.connection.phase with
  | idle => simp [step?, hp] at h
  | ended => simp [step?, hp] at h
  | closing =>
    simp only [step?, hp, Option.some.injEq] at h
    cases h
    exact .finished (.inr hp)
  | writing t handler => exact .wrote hp (writeStep_of_step? hp h)
  | opening =>
    cases hc : l.connection.cancelled with
    | true =>
      simp only [step?, hp, hc, if_true, stop, Option.some.injEq] at h
      cases h
      exact .finished (.inl ⟨hp, hc⟩)
    | false =>
      simp only [step?, hp, hc, Bool.false_eq_true, if_false, openStep?] at h
      split at h
      · rename_i houtcome
        cases h
        exact .opened hp hc houtcome
      · rename_i failure houtcome
        have hf : l.connection.fail failure =
            ({ l.connection with phase := .closing, busy := false }, [.failed failure]) := by
          simp [Connection.fail, Connection.awaited, hp]
        rw [hf] at h
        cases h
        exact .refused hp hc houtcome
      · cases h
  | talking t =>
    cases hc : l.connection.cancelled with
    | true =>
      have hstop : l.connection.stop =
          ({ l.connection with phase := .closing, busy := false }, t.awaited.map .dropped) := by
        unfold stop
        rw [hp]
      have hs : l.step? now = some (l.after l.connection.stop) := by simp [step?, hp, hc]
      rw [hs, hstop] at h
      cases h
      exact .stopped hp hc
    | false => exact .talked hp hc (talkStep_of_step? hp hc h)

/-- What is read ends a connection because the transport failed, or because it breaks the
protocol. -/
theorem kind_of_receive {c : Connection R E} {t : Talk R E} {i : Inbound} {failure : Failure}
    (hp : c.phase = .talking t) (h : .failed failure ∈ (c.receive t i).2) :
    failure.kind = .transport ∨ failure.kind = .protocolViolation := by
  have hfail : ∀ f : Failure, f.kind = .transport ∨ f.kind = .protocolViolation →
      .failed failure ∈ (c.fail f).2 →
      failure.kind = .transport ∨ failure.kind = .protocolViolation := by
    intro f hf hmem
    rw [fail_of_talking hp] at hmem
    have heq : failure = f := by simpa using hmem
    rw [heq]
    exact hf
  cases i with
  | binary => cases h
  | control => cases h
  | broken reason => exact hfail _ (.inl rfl) h
  | ended => exact hfail _ (.inl rfl) h
  | close payload =>
    refine hfail _ (.inl ?_) h
    cases payload <;> rfl
  | text frame =>
    cases hparse : Frame.parse frame with
    | ok f => exact absurd h ((receive_of_parse hp hparse).2 failure)
    | error violation =>
      simp only [receive, hparse] at h
      exact hfail _ (.inr rfl) h

/-- **An open connection tells of a response that did not come only when it has nothing left to take
and to read.** -/
theorem kind_of_failed {t : Talk R E} (hp : l.connection.phase = .talking t)
    (h : l.TalkStep t now l' effects) (hs : l.step? now = some (l', effects)) (failure : Failure)
    (hmem : .failed failure ∈ effects) :
    failure.kind ≠ .timeout ∨ l.connection.inbox = [] ∧ l.unread = [] ∧
      ∃ p, t.pending = some p ∧
        failure = .timeout p.callbackId (min l.connection.timeout longestReport) := by
  rcases step?_read_or_not hs with ⟨t', i, rest, hp', -, -, -, heq⟩ | ⟨-, hnone⟩
  · obtain rfl := Phase.talking.inj (hp.symm.trans hp')
    cases heq
    rcases List.mem_cons.1 hmem with hread | hmem
    · cases hread
    · refine .inl ?_
      rcases kind_of_receive hp hmem with hkind | hkind <;> rw [hkind] <;> decide
  · cases h with
    | subscribed => cases hmem
    | wrote => simp at hmem
    | givenUp => simp at hmem
    | unwritable =>
      obtain rfl : failure = .webSocket _ := by simpa using hmem
      exact .inl (by simp [Failure.kind])
    | read => exact absurd (hnone _ List.mem_cons_self) (by simp [Effect.isOfFrame])
    | answered => exact absurd (hnone _ List.mem_cons_self) (by simp [Effect.isOfFrame])
    | failed => exact absurd (hnone _ List.mem_cons_self) (by simp [Effect.isOfFrame])
    | @expired p inbox unread pending =>
      have heq : failure = .timeout p.callbackId (min l.connection.timeout longestReport) := by
        simpa using hmem
      exact .inr ⟨inbox, unread, p, pending, heq⟩

/-- The way to the server ends once. -/
theorem Move.outcome (h : l.Move now l' effects) : l'.outcome = l.outcome := by
  cases h with
  | talked _ _ step => cases step <;> rfl
  | wrote _ step => cases step <;> rfl
  | _ => rfl

theorem Move.timeout (h : l.Move now l' effects) :
    l'.connection.timeout = l.connection.timeout := by
  cases h with
  | talked _ _ step => cases step <;> rfl
  | wrote _ step => cases step <;> rfl
  | _ => rfl

/-! ### The order of calls -/

/-- **A step calls the handler of a response or of failures last**; after it a handler may be given
up. -/
theorem calls_last (h : l.Move now l' effects) :
    effects.Pairwise fun e e' => e.isReport = true → ∃ handler, e' = .dropped handler := by
  have hnone : ∀ {es : List (Effect R E)}, (∀ e ∈ es, e.isReport = false) →
      es.Pairwise fun e e' => e.isReport = true → ∃ handler, e' = .dropped handler := by
    intro es hes
    refine (List.pairwise_of_forall (R := fun _ _ => True) fun _ _ => trivial).imp_of_mem ?_
    intro e e' he _ _ hreport
    rw [hes e he] at hreport
    cases hreport
  have hdropped : ∀ handlers : List R, ∀ e ∈ handlers.map (Effect.dropped (E := E)),
      e.isReport = false := by
    intro handlers e he
    obtain ⟨_, -, rfl⟩ := List.mem_map.1 he
    rfl
  cases h with
  | opened => exact hnone (by simp [Effect.isReport])
  | refused => exact List.pairwise_singleton _ _
  | stopped => exact hnone (hdropped _)
  | finished => exact hnone (hdropped _)
  | wrote _ step => cases step <;> simp [Effect.isReport]
  | @talked t _ _ _ _ step =>
    cases step with
    | subscribed => exact .nil
    | wrote => exact hnone (by simp [Effect.isReport])
    | givenUp => exact hnone (by simp [Effect.isReport])
    | unwritable => simp [Effect.isReport]
    | @read i _ deliveries _ _ _ delivered =>
      refine hnone (List.forall_mem_cons.2 ⟨rfl, fun e he => ?_⟩)
      obtain ⟨_, _, _, rfl⟩ := delivered e he
      rfl
    | answered => simp [Effect.isReport]
    | failed =>
      refine List.pairwise_cons.2 ⟨fun _ _ hreport => (by cases hreport), List.pairwise_append.2
        ⟨hnone (hdropped t.awaited), List.pairwise_singleton _ _, ?_⟩⟩
      intro e he _ _ hreport
      rw [hdropped _ e he] at hreport
      cases hreport
    | expired => simp

end Link

namespace Connection

/-! ### Runs -/

namespace Run

/-- The run of a connection with this timeout, after a list of acts. -/
def after (timeout : Nat) (acts : List (Act R E)) : Run R E := (start timeout).all acts

/-- What happened so far, without its times. -/
def history (r : Run R E) : List (Event R E) := r.trace.map Prod.snd

variable {r r' : Run R E}

theorem history_of_trace {es : List (Event R E)} {now : Nat}
    (h : r'.trace = r.trace ++ es.map fun e => (now, e)) : r'.history = r.history ++ es := by
  simp [history, h, Function.comp_def]

@[simp] theorem history_note (r : Run R E) (es : List (Event R E)) :
    (r.note es).history = r.history ++ es :=
  history_of_trace rfl

/-- The owner or the transport did something that is no matter of requests, or time has passed. -/
structure Aside (r r' : Run R E) : Prop where
  alike : r.link.connection.Alike r'.link.connection
  timeout : r'.link.connection.timeout = r.link.connection.timeout
  trace : r'.trace = r.trace

theorem Aside.refl (r : Run R E) : r.Aside r := ⟨.refl _, rfl, rfl⟩

theorem Aside.history (h : r.Aside r') : r'.history = r.history := by
  simp only [Run.history, h.trace]

/-- What can come of an act. -/
inductive Did (r : Run R E) : Run R E → Prop
  | connected (phase : r.link.connection.phase = .idle) :
      Did r (r.withConnection { r.link.connection with phase := .opening })
  | accepted {request : Request} {handler : R} (idle : r.link.connection.phase ≠ .idle)
      (ended : r.link.connection.phase ≠ .ended) (free : r.link.connection.busy = false) :
      Did r ((r.withConnection { r.link.connection with
        busy := true
        inbox := r.link.connection.inbox ++ [.send request handler] }).note [.accepted handler])
  | refused {handler : R} {failure : Failure} : Did r (r.note [.refused handler failure])
  | aside {r' : Run R E} (same : r.Aside r') : Did r r'
  | moved {l' : Link R E} {effects : List (Effect R E)}
      (step : r.link.step? r.clock = some (l', effects))
      (move : r.link.Move r.clock l' effects) :
      Did r ({ r with link := l' }.note (effects.map .did))

end Run

/-- When a connection takes a request. -/
theorem send_cases (c : Connection R E) (request : Request) (handler : R) :
    (∃ failure, c.send request handler = .error failure) ∨
      (c.phase ≠ .idle ∧ c.phase ≠ .ended ∧ c.busy = false ∧ c.send request handler =
        .ok { c with busy := true, inbox := c.inbox ++ [.send request handler] }) := by
  cases hs : c.send request handler with
  | error failure => exact .inl ⟨failure, rfl⟩
  | ok c' =>
    obtain rfl := send_eq_ok hs
    refine .inr ⟨?_, ?_, ?_, rfl⟩
    · intro hp
      simp [send, hp] at hs
    · intro hp
      cases hb : c.busy <;> simp [send, hp, hb] at hs
    · cases hb : c.busy with
      | false => rfl
      | true => unfold send at hs; split at hs <;> simp [hb] at hs

namespace Run

/-- A connection is sent on its way once. -/
theorem act_connect (r : Run R E) :
    (r.link.connection.phase = .idle ∧ r.act .connect =
        r.withConnection { r.link.connection with phase := .opening }) ∨
      r.act .connect = r := by
  cases hp : r.link.connection.phase with
  | idle => exact .inl ⟨rfl, by simp [act, connect, hp]⟩
  | _ => exact .inr (by simp [act, connect, hp])

/-- **What can come of an act is one of these.** -/
theorem did_act (r : Run R E) (a : Act R E) : r.Did (r.act a) := by
  cases a with
  | connect =>
    rcases r.act_connect with ⟨hp, hact⟩ | hact
    · rw [hact]
      exact .connected hp
    · rw [hact]
      exact .aside (.refl r)
  | send request handler =>
    rcases r.link.connection.send_cases request handler with
      ⟨failure, hs⟩ | ⟨hidle, hended, hbusy, hs⟩
    · have hact : r.act (.send request handler) = r.note [.refused handler failure] := by
        simp [act, hs]
      rw [hact]
      exact .refused
    · have hact : r.act (.send request handler) = (r.withConnection { r.link.connection with
          busy := true
          inbox := r.link.connection.inbox ++ [.send request handler] }).note
            [.accepted handler] := by
        simp [act, hs]
      rw [hact]
      exact .accepted hidle hended hbusy
  | subscribe event handler =>
    refine .aside ⟨r.link.connection.alike_subscribe event handler, ?_, rfl⟩
    show (r.link.connection.subscribe event handler).timeout = _
    unfold Connection.subscribe
    split <;> rfl
  | close => exact .aside ⟨⟨rfl, rfl, rfl⟩, rfl, rfl⟩
  | offer outcome => exact .aside ⟨.refl _, rfl, rfl⟩
  | arrive i => exact .aside ⟨.refl _, rfl, rfl⟩
  | breakWrites reason => exact .aside ⟨.refl _, rfl, rfl⟩
  | stall => exact .aside ⟨.refl _, rfl, rfl⟩
  | resume => exact .aside ⟨.refl _, rfl, rfl⟩
  | elapse milliseconds => exact .aside ⟨.refl _, rfl, rfl⟩
  | step =>
    show r.Did (r.step?.getD r)
    cases hs : r.link.step? r.clock with
    | none =>
      have hnone : r.step? = none := by simp [step?, hs]
      rw [hnone]
      exact .aside (.refl r)
    | some done =>
      have hsome : r.step? = some ({ r with link := done.1 }.note (done.2.map .did)) := by
        simp [step?, hs]
      rw [hsome]
      exact .moved hs (Link.move_of_step? hs)

/-- Only `close` makes a connection one that is to be closed, and nothing takes that back. -/
theorem cancelled_act (r : Run R E) {a : Act R E} (h : a ≠ .close) :
    (r.act a).link.connection.cancelled = r.link.connection.cancelled := by
  cases a with
  | connect =>
    rcases r.act_connect with ⟨-, hact⟩ | hact <;> rw [hact]
    rfl
  | send request handler =>
    rcases r.link.connection.send_cases request handler with ⟨failure, hs⟩ | ⟨-, -, -, hs⟩
    · simp [act, hs, note]
    · simp [act, hs, note, withConnection]
  | subscribe event handler => exact r.link.connection.cancelled_subscribe event handler
  | close => exact absurd rfl h
  | step =>
    show (r.step?.getD r).link.connection.cancelled = _
    cases hs : r.link.step? r.clock with
    | none => simp [step?, hs]
    | some done => simpa [step?, hs, note] using Link.step?_cancelled hs
  | _ => rfl

theorem cancelled_act_of_cancelled (r : Run R E) (a : Act R E)
    (h : r.link.connection.cancelled = true) : (r.act a).link.connection.cancelled = true := by
  by_cases ha : a = .close
  · subst ha
    rfl
  · rw [cancelled_act r ha, h]

/-- Time passes only by itself. -/
theorem clock_act (r : Run R E) {a : Act R E} (h : ∀ milliseconds, a ≠ .elapse milliseconds) :
    (r.act a).clock = r.clock := by
  cases a with
  | connect =>
    rcases r.act_connect with ⟨-, hact⟩ | hact <;> rw [hact]
    rfl
  | send request handler =>
    rcases r.link.connection.send_cases request handler with ⟨failure, hs⟩ | ⟨-, -, -, hs⟩
    · simp [act, hs, note]
    · simp [act, hs, note, withConnection]
  | elapse milliseconds => exact absurd rfl (h milliseconds)
  | step =>
    show (r.step?.getD r).clock = _
    cases hs : r.link.step? r.clock <;> simp [step?, hs, note]
  | _ => rfl

/-- Only `offer` ends the way to the server, and the first end counts. -/
theorem outcome_act (r : Run R E) (a : Act R E) :
    (r.act a).link.outcome = r.link.outcome ∨
      ∃ outcome, a = .offer outcome ∧ r.link.outcome = none ∧
        (r.act a).link.outcome = some outcome := by
  cases a with
  | connect =>
    left
    rcases r.act_connect with ⟨-, hact⟩ | hact <;> rw [hact]
    rfl
  | send request handler =>
    left
    rcases r.link.connection.send_cases request handler with ⟨failure, hs⟩ | ⟨-, -, -, hs⟩
    · simp [act, hs, note]
    · simp [act, hs, note, withConnection]
  | offer outcome =>
    cases ho : r.link.outcome with
    | none => exact .inr ⟨outcome, rfl, rfl, by simp [act, Link.offer, ho]⟩
    | some _ => exact .inl (by simp [act, Link.offer, ho])
  | step =>
    left
    show (r.step?.getD r).link.outcome = _
    cases hs : r.link.step? r.clock with
    | none => simp [step?, hs]
    | some done => simpa [step?, hs, note] using (Link.move_of_step? hs).outcome
  | _ => exact .inl rfl

/-- What was recorded stays. -/
theorem trace_act (r : Run R E) (a : Act R E) : ∃ more, (r.act a).trace = r.trace ++ more := by
  have hdid := r.did_act a
  generalize r.act a = r' at hdid
  cases hdid with
  | connected => exact ⟨[], by simp [withConnection]⟩
  | accepted => exact ⟨_, rfl⟩
  | refused => exact ⟨_, rfl⟩
  | aside same => exact ⟨[], by simp [same.trace]⟩
  | moved => exact ⟨_, rfl⟩

section After

variable (timeout : Nat) (acts : List (Act R E))

theorem after_append (more : List (Act R E)) :
    after timeout (acts ++ more) = (after timeout acts).all more := by
  simp [after, all]

theorem after_concat (a : Act R E) :
    after timeout (acts ++ [a]) = (after timeout acts).act a :=
  after_append timeout acts [a]

/-- What holds at the start and is kept by every act of a run holds of every run. -/
theorem after_induction {P : Run R E → Prop} (hstart : P (start timeout))
    (hact : ∀ r' : Run R E, ∀ acts a, r' = after timeout acts → P r' → P (r'.act a)) :
    P (after timeout acts) := by
  induction acts using List.reverseRecOn with
  | nil => exact hstart
  | append_singleton acts a ih =>
    rw [after_concat]
    exact hact _ acts a rfl ih

/-- A connection that its owner never closed is not to be closed. -/
theorem cancelled_after (h : .close ∉ acts) :
    (after timeout acts).link.connection.cancelled = false := by
  induction acts using List.reverseRecOn with
  | nil => rfl
  | append_singleton acts a ih =>
    simp only [List.mem_append, List.mem_singleton, not_or] at h
    rw [after_concat, cancelled_act _ (Ne.symm h.2)]
    exact ih h.1

/-- The way to the server ends as the transport says. -/
theorem offer_of_outcome {outcome : Except Failure Unit}
    (h : (after timeout acts).link.outcome = some outcome) : .offer outcome ∈ acts := by
  induction acts using List.reverseRecOn with
  | nil => cases h
  | append_singleton acts a ih =>
    rw [after_concat] at h
    rcases (after timeout acts).outcome_act a with hsame | ⟨outcome', rfl, -, hoffer⟩
    · rw [hsame] at h
      exact List.mem_append_left _ (ih h)
    · rw [hoffer] at h
      cases h
      exact List.mem_append_right _ (List.mem_singleton.2 rfl)

end After

end Run

end Connection

end PrintClient
