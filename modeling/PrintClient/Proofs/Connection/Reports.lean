import PrintClient.Proofs.Connection.Deeds

/-!
# What a connection tells of failures

The owner of a connection is told of two kinds of failures. A response that does not come in time
leaves the connection open. Every other failure ends it, and is the last thing that the owner is
told. A connection that its owner closes ends without a word.

* `Event.isCall`, `failures`: the calls of handlers, and those that tell of failures;
* `Untroubled`, `Troubled`: histories without and with a failure that ends the connection;
* `Link.Move.told`: what a step of a connection that is not done with its work tells;
* `Reports`, `reports_after`: a connection that is done with its work has failed or was closed;
* `silent_all_of_cancelled`: a connection that is to be closed calls no handler;
* `failures_told_in_order`: all that the owner is told of failures.
-/

namespace PrintClient

namespace Connection

variable {R E : Type}

/-- Whether a handler of the owner is called. -/
def Event.isCall : Event R E → Bool
  | .did .opened | .did (.answered ..) | .did (.delivered ..) | .did (.failed _) => true
  | _ => false

/-- The failures that the owner was told of. -/
def failures (history : List (Event R E)) : List Failure :=
  history.filterMap fun
    | .did (.failed failure) => some failure
    | _ => none

/-- The owner was told of no failure but responses that did not come in time. -/
def Untroubled (history : List (Event R E)) : Prop :=
  ∀ failure ∈ failures history, failure.kind = .timeout

/-- The owner was told of another failure, and no handler was called after that. -/
def Troubled (history : List (Event R E)) : Prop :=
  ∃ before failure later, history = before ++ .did (.failed failure) :: later ∧
    failure.kind ≠ .timeout ∧ Untroubled before ∧ ∀ e ∈ later, e.isCall = false

section Histories

variable {history more : List (Event R E)}

theorem failures_append (history more : List (Event R E)) :
    failures (history ++ more) = failures history ++ failures more :=
  List.filterMap_append

theorem mem_failures {failure : Failure} :
    failure ∈ failures history ↔ .did (.failed failure) ∈ history := by
  constructor
  · intro h
    obtain ⟨e, he, hf⟩ := List.mem_filterMap.1 h
    split at hf
    · cases hf
      exact he
    · cases hf
  · intro h
    exact List.mem_filterMap.2 ⟨_, h, rfl⟩

theorem failures_of_silent (h : ∀ e ∈ history, e.isCall = false) : failures history = [] := by
  refine List.eq_nil_iff_forall_not_mem.2 fun failure hmem => ?_
  cases h _ (mem_failures.1 hmem)

theorem Event.isCall_of_isReply {e : Event R E} (h : e.isReply = true) : e.isCall = false := by
  cases e with
  | did => cases h
  | accepted => rfl
  | refused => rfl

/-- What nobody is told of is no call. -/
theorem isCall_of_silent {effects : List (Effect R E)} (h : ∀ e ∈ effects, e.IsSilent) :
    ∀ e ∈ effects.map Event.did, e.isCall = false := by
  intro e he
  obtain ⟨effect, heffect, rfl⟩ := List.mem_map.1 he
  have hsilent := h effect heffect
  cases effect <;> first | rfl | exact hsilent.elim

theorem Untroubled.append (h : Untroubled history)
    (hmore : ∀ failure, .did (.failed failure) ∈ more → failure.kind = .timeout) :
    Untroubled (history ++ more) := by
  intro failure hmem
  rw [failures_append, List.mem_append] at hmem
  rcases hmem with hmem | hmem
  · exact h failure hmem
  · exact hmore failure (mem_failures.1 hmem)

theorem Untroubled.silent (h : Untroubled history) (hmore : ∀ e ∈ more, e.isCall = false) :
    Untroubled (history ++ more) := by
  apply h.append
  intro failure hmem
  cases hmore _ hmem

theorem Troubled.silent (h : Troubled history) (hmore : ∀ e ∈ more, e.isCall = false) :
    Troubled (history ++ more) := by
  obtain ⟨before, failure, later, rfl, hkind, hbefore, hlater⟩ := h
  refine ⟨before, failure, later ++ more, by simp, hkind, hbefore, ?_⟩
  intro e he
  rcases List.mem_append.1 he with he | he
  · exact hlater e he
  · exact hmore e he

/-- The failure that ended the connection is told once, after all others. -/
theorem Troubled.failures_eq (h : Troubled history) :
    ∃ timeouts failure, failures history = timeouts ++ [failure] ∧
      (∀ f ∈ timeouts, f.kind = .timeout) ∧ failure.kind ≠ .timeout := by
  obtain ⟨before, failure, later, rfl, hkind, hbefore, hlater⟩ := h
  refine ⟨failures before, failure, ?_, hbefore, hkind⟩
  have hnone : failures later = [] := failures_of_silent hlater
  rw [failures_append, show failures (.did (.failed failure) :: later) =
    failure :: failures later from rfl, hnone]

/-- No handler is called after the failure that ended the connection. -/
theorem Troubled.isCall_eq_false (h : Troubled history) {before later : List (Event R E)}
    {failure : Failure} (hh : history = before ++ .did (.failed failure) :: later)
    (hkind : failure.kind ≠ .timeout) : ∀ e ∈ later, e.isCall = false := by
  obtain ⟨before', failure', later', rfl, -, hbefore', hlater'⟩ := h
  rcases List.append_eq_append_iff.1 hh with ⟨mid, hb, htail⟩ | ⟨mid, hb, htail⟩
  · cases mid with
    | nil =>
      cases htail
      exact hlater'
    | cons e mid =>
      have hmem : .did (.failed failure) ∈ later' := by
        rw [(List.cons.inj htail).2]
        simp
      cases hlater' _ hmem
  · cases mid with
    | nil =>
      cases htail
      exact hlater'
    | cons e mid =>
      have hmem : .did (.failed failure) ∈ before' := by
        rw [hb, ← (List.cons.inj htail).1]
        simp
      exact absurd (hbefore' failure (mem_failures.2 hmem)) hkind

end Histories

end Connection

namespace Link

open Connection

variable {R E : Type} {l l' : Link R E} {now : Nat} {effects : List (Effect R E)}

/-- **What a connection tells that is not done with its work.** It tells at most of a response that
did not come in time, and goes on; or it tells of another failure last, and is done; or it is done
without a word, because its owner wants it closed. -/
theorem Move.told (hover : ¬ l.connection.IsOver) (step : l.step? now = some (l', effects))
    (h : l.Move now l' effects) :
    (¬ l'.connection.IsOver ∧ ∀ failure, .failed failure ∈ effects → failure.kind = .timeout) ∨
    (l'.connection.IsOver ∧ ∃ quiet failure, effects = quiet ++ [.failed failure] ∧
      (∀ f, .failed f ∉ quiet) ∧
      (failure.kind ≠ .timeout ∨ l.outcome = some (.error failure))) ∨
    (l'.connection.IsOver ∧ l.connection.cancelled = true ∧
      ∃ handlers : List R, effects = handlers.map .dropped) := by
  cases h with
  | opened => exact .inl ⟨by simp [IsOver], by simp⟩
  | @refused failure _ _ outcome =>
    exact .inr (.inl ⟨.inl rfl, [], failure, rfl, by simp, .inr outcome⟩)
  | stopped _ wish => exact .inr (.inr ⟨.inl rfl, wish, _, rfl⟩)
  | finished done =>
    rcases done with ⟨-, wish⟩ | phase
    · exact .inr (.inr ⟨.inr rfl, wish, _, rfl⟩)
    · exact absurd (.inl phase) hover
  | @talked t _ _ phase _ talk =>
    have hkind := kind_of_failed phase talk step
    cases talk with
    | subscribed => exact .inl ⟨by simp [IsOver], by simp⟩
    | wrote => exact .inl ⟨by simp [IsOver], by simp⟩
    | givenUp => exact .inl ⟨hover, by simp⟩
    | @unwritable _ handler _ reason =>
      exact .inr (.inl ⟨.inl rfl, [.dropped handler], .webSocket reason, rfl, by simp,
        .inl (by simp [Failure.kind])⟩)
    | read _ _ _ delivered =>
      refine .inl ⟨hover, fun failure hmem => ?_⟩
      rcases List.mem_cons.1 hmem with he | he
      · cases he
      · obtain ⟨_, _, _, he⟩ := delivered _ he
        cases he
    | answered => exact .inl ⟨by simp [IsOver], by simp⟩
    | @failed i rest failure inbox unread =>
      refine .inr (.inl ⟨.inl rfl, .read i :: t.awaited.map .dropped, failure, rfl, by simp,
        .inl ?_⟩)
      rcases hkind failure (by simp) with hne | ⟨-, hu, -⟩
      · exact hne
      · rw [unread] at hu
        cases hu
    | expired =>
      refine .inl ⟨by simp [IsOver], fun failure hmem => ?_⟩
      rcases List.mem_cons.1 hmem with he | he
      · cases he
        rfl
      · simp at he
  | @wrote t handler _ _ phase step =>
    cases step with
    | armed => exact .inl ⟨by simp [IsOver], by simp⟩
    | @unwritable reason =>
      exact .inr (.inl ⟨.inl rfl, [.dropped handler], .webSocket reason, rfl, by simp,
        .inl (by simp [Failure.kind])⟩)
    | brokenOff _ wish => exact .inr (.inr ⟨.inl rfl, wish, [handler], rfl⟩)

end Link

namespace Connection

variable {R E : Type}

namespace Run

/-- A connection that is done with its work has failed, or its owner wanted it closed. A way to the
server that ended because a response did not come in time is told apart. -/
inductive Reports (r : Run R E) : Prop
  | working (busy : ¬ r.link.connection.IsOver) (untroubled : Untroubled r.history)
  | failed (done : r.link.connection.IsOver) (troubled : Troubled r.history)
  | closed (done : r.link.connection.IsOver)
      (reason : r.link.connection.cancelled = true ∨
        ∃ failure, r.link.outcome = some (.error failure) ∧ failure.kind = .timeout)
      (untroubled : Untroubled r.history)

variable {r r' : Run R E}

theorem Reports.silent (h : r.Reports) (more : List (Event R E))
    (hhistory : r'.history = r.history ++ more)
    (hmore : ∀ e ∈ more, e.isCall = false)
    (hover : r'.link.connection.IsOver ↔ r.link.connection.IsOver)
    (hcancelled : r.link.connection.cancelled = true → r'.link.connection.cancelled = true)
    (houtcome : ∀ o, r.link.outcome = some o → r'.link.outcome = some o) : r'.Reports := by
  cases h with
  | working busy untroubled =>
    refine .working (fun h => busy (hover.1 h)) ?_
    rw [hhistory]
    exact untroubled.silent hmore
  | failed done troubled =>
    refine .failed (hover.2 done) ?_
    rw [hhistory]
    exact troubled.silent hmore
  | closed done reason untroubled =>
    refine .closed (hover.2 done) ?_ ?_
    · exact reason.imp hcancelled fun ⟨failure, ho, hkind⟩ => ⟨failure, houtcome _ ho, hkind⟩
    · rw [hhistory]
      exact untroubled.silent hmore

/-- A step of a connection that is not done with its work. -/
theorem reports_of_told {l' : Link R E} {effects : List (Effect R E)}
    (hover : ¬ r.link.connection.IsOver) (h : Untroubled r.history)
    (step : r.link.step? r.clock = some (l', effects)) (move : r.link.Move r.clock l' effects) :
    ({ r with link := l' }.note (effects.map .did)).Reports := by
  have hmem : ∀ (es : List (Effect R E)) failure, Event.did (.failed failure) ∈ es.map .did →
      Effect.failed failure ∈ es := by
    intro es failure he
    simpa using he
  rcases move.told hover step with ⟨hover', hkind⟩ | ⟨hover', quiet, failure, rfl, hquiet, hkind⟩ |
    ⟨hover', wish, handlers, rfl⟩
  · refine .working hover' ?_
    rw [history_note]
    exact h.append fun failure he => hkind failure (hmem effects failure he)
  · have hbefore : Untroubled (r.history ++ quiet.map .did) :=
      (h.append fun f he => absurd (hmem quiet f he) (hquiet f))
    have hhistory :
        ({ r with link := l' }.note ((quiet ++ [Effect.failed failure]).map .did)).history =
          r.history ++ quiet.map .did ++ [Event.did (Effect.failed failure)] := by
      rw [history_note, List.map_append, List.append_assoc]
      rfl
    by_cases hk : failure.kind = .timeout
    · refine .closed hover' (.inr ⟨failure, ?_, hk⟩) ?_
      · exact move.outcome.trans (hkind.resolve_left fun hne => hne hk)
      · rw [hhistory]
        refine hbefore.append fun f he => ?_
        obtain rfl : f = failure := by simpa using he
        exact hk
    · refine .failed hover' ?_
      rw [hhistory]
      exact ⟨_, failure, [], rfl, hk, hbefore, by simp⟩
  · refine .closed hover' (.inl ((Link.step?_cancelled step).trans wish)) ?_
    rw [history_note]
    exact h.silent (isCall_of_silent (Link.isSilent_of_dropped (by simp)))

theorem Reports.act (h : r.Reports) (a : Act R E) : (r.act a).Reports := by
  have hcancelled := r.cancelled_act_of_cancelled a
  have houtcome : ∀ o, r.link.outcome = some o → (r.act a).link.outcome = some o := by
    intro o ho
    rcases r.outcome_act a with hsame | ⟨_, -, hnone, -⟩
    · rw [hsame, ho]
    · rw [hnone] at ho
      cases ho
  rcases (r.did_act a).handed_or_moved with ⟨more, hhanded⟩ | ⟨l', effects, step, move, heq⟩
  · exact h.silent more hhanded.history
      (fun e he => Event.isCall_of_isReply (hhanded.replies e he)) hhanded.isOver hcancelled
      houtcome
  · rw [heq] at hcancelled houtcome ⊢
    by_cases hover : r.link.connection.IsOver
    · obtain ⟨hover', hdropped⟩ := Link.step?_of_isOver hover step
      exact h.silent _ (history_note _ _) (isCall_of_silent (Link.isSilent_of_dropped hdropped))
        ⟨fun _ => hover, fun _ => hover'⟩ hcancelled houtcome
    · cases h with
      | working _ untroubled => exact reports_of_told hover untroubled step move
      | failed done => exact absurd done hover
      | closed done => exact absurd done hover

/-- **A connection that is done with its work has failed or was closed**, in every run. -/
theorem reports_after (timeout : Nat) (acts : List (Act R E)) : (after timeout acts).Reports := by
  refine after_induction timeout acts ?_ fun _ _ a _ h => h.act a
  exact .working (by simp [start, Link.new, Connection.new, IsOver])
    (by simp [Untroubled, failures, history, start])

/-- **A connection that is to be closed calls no handler any more**, whatever happens. -/
theorem silent_all_of_cancelled (hc : r.link.connection.cancelled = true) (acts : List (Act R E)) :
    ∃ later, (r.all acts).history = r.history ++ later ∧ ∀ e ∈ later, e.isCall = false := by
  induction acts generalizing r with
  | nil => exact ⟨[], by simp [all], by simp⟩
  | cons a acts ih =>
    have hact : ∃ more, (r.act a).history = r.history ++ more ∧ ∀ e ∈ more, e.isCall = false := by
      rcases (r.did_act a).handed_or_moved with ⟨more, hhanded⟩ | ⟨l', effects, step, -, heq⟩
      · exact ⟨more, hhanded.history,
          fun e he => Event.isCall_of_isReply (hhanded.replies e he)⟩
      · rw [heq]
        exact ⟨_, history_note _ _, isCall_of_silent (Link.step?_of_cancelled hc step)⟩
    obtain ⟨more, hmore, hsilent⟩ := hact
    obtain ⟨later, hlater, hsilent'⟩ := ih (r.cancelled_act_of_cancelled a hc)
    refine ⟨more ++ later, ?_, fun e he => (List.mem_append.1 he).elim (hsilent e) (hsilent' e)⟩
    rw [← List.append_assoc, ← hmore, ← hlater]
    rfl

/-- **The owner is told of responses that did not come in time, and then of at most one other
failure; no handler is called after that one.** That one is told when the connection is done with
its work and was not closed. This supposes that the way to the server does not end because a
response did not come in time, since no request is sent before it has ended. From the moment when
the owner closes the connection, or gives it up, no handler is called, whatever happens. -/
theorem failures_told_in_order (timeout : Nat) (acts : List (Act R E)) :
    (∃ timeouts last, failures (after timeout acts).history = timeouts ++ last ∧
      (∀ f ∈ timeouts, f.kind = .timeout) ∧ (∀ f ∈ last, f.kind ≠ .timeout) ∧ last.length ≤ 1) ∧
    (∀ before failure later,
      (after timeout acts).history = before ++ .did (.failed failure) :: later →
      failure.kind ≠ .timeout → ∀ e ∈ later, e.isCall = false) ∧
    ((∀ failure, .offer (.error failure) ∈ acts → failure.kind ≠ .timeout) →
      (after timeout acts).link.connection.IsOver → .close ∉ acts →
      ∃ timeouts failure, failures (after timeout acts).history = timeouts ++ [failure] ∧
        (∀ f ∈ timeouts, f.kind = .timeout) ∧ failure.kind ≠ .timeout) ∧
    ∀ more, ∃ later,
      (after timeout (acts ++ .close :: more)).history = (after timeout acts).history ++ later ∧
        ∀ e ∈ later, e.isCall = false := by
  have hreports := reports_after timeout acts
  have hcases :
      Untroubled (after timeout acts).history ∨ Troubled (after timeout acts).history := by
    cases hreports with
    | working _ untroubled => exact .inl untroubled
    | failed _ troubled => exact .inr troubled
    | closed _ _ untroubled => exact .inl untroubled
  refine ⟨?_, ?_, ?_, ?_⟩
  · rcases hcases with h | h
    · exact ⟨_, [], (List.append_nil _).symm, h, by simp, by simp⟩
    · obtain ⟨timeouts, failure, heq, htimeouts, hkind⟩ := h.failures_eq
      exact ⟨timeouts, [failure], heq, htimeouts, by simpa using hkind, by simp⟩
  · intro before failure later hh hkind
    rcases hcases with h | h
    · refine absurd (h failure (mem_failures.2 ?_)) hkind
      rw [hh]
      simp
    · exact h.isCall_eq_false hh hkind
  · intro hopen hover hclose
    cases hreports with
    | working busy => exact absurd hover busy
    | failed _ troubled => exact troubled.failures_eq
    | closed _ reason =>
      rcases reason with hc | ⟨failure, houtcome, hkind⟩
      · rw [cancelled_after timeout acts hclose] at hc
        cases hc
      · exact absurd hkind (hopen failure (offer_of_outcome timeout acts houtcome))
  · intro more
    obtain ⟨later, hlater, hsilent⟩ := silent_all_of_cancelled
      (r := (after timeout acts).act .close) rfl more
    refine ⟨later, ?_, hsilent⟩
    rw [after_append]
    exact hlater

/-- A server that lets a connection in, leaves its first request unanswered for too long, and ends
the connection. -/
def sampleFarewell : List (Act Nat Nat) :=
  [.connect, .offer (.ok ()), .step, .send (.named "listPrinter") 1, .step, .step, .elapse 500,
    .step, .arrive (.close none), .step, .step]

theorem sampleFarewell_told : ∃ timeouts failure before later,
    failures (after 500 sampleFarewell).history = timeouts ++ [failure] ∧
      failure.kind ≠ .timeout ∧
      (after 500 sampleFarewell).history = before ++ .did (.failed failure) :: later ∧
      ∀ e ∈ later, e.isCall = false := by
  have hopen : ∀ failure, .offer (.error failure) ∈ sampleFarewell → failure.kind ≠ .timeout := by
    simp [sampleFarewell]
  have hover : (after 500 sampleFarewell).link.connection.IsOver := .inr (by decide +kernel)
  obtain ⟨-, hquiet, htold, -⟩ := failures_told_in_order 500 sampleFarewell
  obtain ⟨timeouts, failure, heq, -, hkind⟩ := htold hopen hover (by simp [sampleFarewell])
  have hmem : .did (.failed failure) ∈ (after 500 sampleFarewell).history := by
    rw [← mem_failures, heq]
    simp
  obtain ⟨before, later, hh⟩ := List.append_of_mem hmem
  exact ⟨timeouts, failure, before, later, heq, hkind, hh, hquiet before failure later hh hkind⟩

end Run

end Connection

end PrintClient
