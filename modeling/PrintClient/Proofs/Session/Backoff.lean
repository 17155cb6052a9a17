import PrintClient.Proofs.Session.Conservation
import PrintClient.Proofs.Session.StateMachine
import PrintClient.Proofs.Session.Teardowns

/-!
# When a session connects again

A session that has lost its connection waits before the next attempt, the longer the more
connections it has lost in a row. Both the delays and the attempts can be read off the record.

* `delayAfter`: the delay after a number of teardowns;
* `failuresIn`, `dueIn`: the teardowns since the last login, and when the next attempt is due, as
  the record tells them;
* `Event.Timed`: the delays and attempts that a record may hold;
* `World.Schedule`, `schedule_run`: every run keeps to the schedule;
* `World.Prompt`: runs in which time does not pass by an attempt that is due;
* `attempt_of_due`: an attempt that is due is made once the session has taken what waits for it;
* `reconnects_keep_schedule`: what holds of every run.
-/

namespace PrintClient

/-- The delay after a teardown that `k` others came before: the entry `k` of the table, or its last
one; there is no delay when the table is empty. -/
def delayAfter (backoff : List Nat) (k : Nat) : Nat := backoff.getD (min k (backoff.length - 1)) 0

theorem retryDelay_eq (backoff : List Nat) (k : Nat) :
    retryDelay backoff k = delayAfter backoff k := by
  unfold retryDelay delayAfter
  by_cases hk : k < backoff.length
  · rw [Nat.min_eq_left (by omega)]
    simp [hk]
  · rw [Nat.min_eq_right (by omega), List.getElem?_eq_none (by omega), List.getLast?_eq_getElem?]
    simp

namespace Session

variable {H : Type}

namespace Event

/-- What an event makes of the number of teardowns since the last login. -/
def tally (k : Nat) : Event H → Nat
  | .putOff _ => k + 1
  | .entered .connected => 0
  | _ => k

/-- What an event makes of the time at which the next attempt is due. -/
def rearm (due : Option Nat) : Nat × Event H → Option Nat
  | (now, .putOff delay) => some (now + delay)
  | (_, .attempted _) => none
  | _ => due

end Event

/-- The teardowns since the last login. -/
def failuresIn (l : List (Event H)) : Nat := l.foldl Event.tally 0

/-- When the next attempt is due, if one has been put off. -/
def dueIn (trace : List (Nat × Event H)) : Option Nat := trace.foldl Event.rearm none

namespace Event

/-- The delay after a teardown is that of the table. Each attempt but the first one is made for a
time at which it was due, and not too `late` for it. -/
def Timed (backoff : List Nat) (late : Nat → Nat → Prop) (before : List (Nat × Event H)) :
    Nat × Event H → Prop
  | (_, .putOff delay) => delay = delayAfter backoff (failuresIn (before.map Prod.snd))
  | (now, .attempted _) =>
    (∀ p ∈ before, ∀ g, p.2 ≠ .attempted g) ∨ ∃ due, dueIn before = some due ∧ late due now
  | _ => True

/-- Whether an event has nothing to do with when a session connects. -/
def isTimeless : Event H → Bool
  | .putOff _ | .attempted _ | .entered .connected => false
  | _ => true

variable {e : Event H} (h : e.isTimeless = true)

include h

theorem tally_of_isTimeless (k : Nat) : e.tally k = k := by
  cases e with
  | putOff => cases h
  | entered state =>
    cases state with
    | connected => cases h
    | _ => rfl
  | _ => rfl

theorem rearm_of_isTimeless (now : Nat) (due : Option Nat) : rearm due (now, e) = due := by
  cases e with
  | putOff => cases h
  | attempted => cases h
  | _ => rfl

theorem timed_of_isTimeless (backoff : List Nat) (late : Nat → Nat → Prop)
    (before : List (Nat × Event H)) (now : Nat) : Timed backoff late before (now, e) := by
  cases e with
  | putOff => cases h
  | attempted => cases h
  | _ => trivial

end Event

section Folds

variable (l m : List (Event H)) (trace : List (Nat × Event H))

theorem failuresIn_append : failuresIn (l ++ m) = m.foldl Event.tally (failuresIn l) :=
  List.foldl_append

theorem dueIn_append (more : List (Nat × Event H)) :
    dueIn (trace ++ more) = more.foldl Event.rearm (dueIn trace) :=
  List.foldl_append

variable {m} (h : ∀ e ∈ m, e.isTimeless = true)

include h

theorem foldl_tally_of_isTimeless (k : Nat) : m.foldl Event.tally k = k :=
  foldl_of_ignored (fun e he => Event.tally_of_isTimeless (h e he)) k

theorem foldl_rearm_of_isTimeless (now : Nat) (due : Option Nat) :
    (m.map fun e => (now, e)).foldl Event.rearm due = due := by
  apply foldl_of_ignored
  intro p hp due
  obtain ⟨e, he, rfl⟩ := List.mem_map.1 hp
  exact Event.rearm_of_isTimeless (h e he) now due

end Folds

/-- A teardown puts the next attempt off at its very end. -/
theorem teardown_eq (s : Session H) (failure : Failure) :
    ∃ es : List (Event H), (∀ e ∈ es, e.isTimeless = true) ∧
      s.teardown failure = es ++ [.putOff (delayAfter s.settings.backoff s.failures)] := by
  refine ⟨(callers s.inFlight.toList).map .lost ++
    .entered .disconnected :: s.onDisconnect.map fun h => .disconnected h failure, ?_, ?_⟩
  · simp only [List.forall_mem_append, List.forall_mem_cons, List.forall_mem_map]
    exact ⟨fun _ _ => rfl, rfl, fun _ _ => rfl⟩
  · simp [teardown, hangUp, retryDelay_eq]

namespace World

/-- What a session keeps about its attempts is what the record tells, and the record is in time. -/
structure Schedule (setup : Setup H) (late : Nat → Nat → Prop) (w : World H) : Prop where
  settings : w.session.settings = setup.settings
  failures : w.session.failures = failuresIn w.history
  timer : w.stage ≠ .ended → w.session.reconnectAt = dueIn w.trace
  fresh : w.stage = .starting → ∀ p ∈ w.trace, p.2.isOwn = false
  timed : Throughout (Event.Timed setup.settings.backoff late) w.trace

variable {w w' : World H} {o : Outcome H} {setup : Setup H} {late : Nat → Nat → Prop}

section Keep

variable {es : List (Event H)} {now : Nat}

theorem throughout_timed {trace : List (Nat × Event H)} (hes : ∀ e ∈ es, e.isTimeless = true)
    (h : Throughout (Event.Timed setup.settings.backoff late) trace) :
    Throughout (Event.Timed setup.settings.backoff late) (trace ++ es.map fun e => (now, e)) := by
  refine h.append _ fun p hp before => ?_
  obtain ⟨e, he, rfl⟩ := List.mem_map.1 hp
  exact Event.timed_of_isTimeless (hes e he) _ _ before now

/-- What has nothing to do with when a session connects changes nothing. -/
theorem Schedule.keep (h : w.Schedule setup late) (hes : ∀ e ∈ es, e.isTimeless = true)
    (ht : w'.trace = w.trace ++ es.map fun e => (now, e))
    (hsettings : w'.session.settings = w.session.settings)
    (hfailures : w'.session.failures = w.session.failures)
    (htimer : w'.stage ≠ .ended →
      w.stage ≠ .ended ∧ w'.session.reconnectAt = w.session.reconnectAt)
    (hfresh : w'.stage = .starting → w.stage = .starting ∧ ∀ e ∈ es, e.isOwn = false) :
    w'.Schedule setup late where
  settings := hsettings.trans h.settings
  failures := by
    rw [hfailures, h.failures, history_of_trace ht, failuresIn_append,
      foldl_tally_of_isTimeless hes]
  timer := by
    intro hs
    obtain ⟨hr, heq⟩ := htimer hs
    rw [heq, h.timer hr, ht, dueIn_append, foldl_rearm_of_isTimeless hes]
  fresh := by
    intro hs p hp
    obtain ⟨hstart, hown⟩ := hfresh hs
    rw [ht] at hp
    rcases List.mem_append.1 hp with hp | hp
    · exact h.fresh hstart p hp
    · obtain ⟨e, he, rfl⟩ := List.mem_map.1 hp
      exact hown e he
  timed := by
    rw [ht]
    exact throughout_timed hes h.timed

end Keep

/-! ### One turn -/

theorem isDue_iff : w.isDue = true ↔ ∃ due, w.session.reconnectAt = some due ∧ due ≤ w.clock := by
  unfold isDue
  cases w.session.reconnectAt with
  | none => simp
  | some due => simp

theorem Schedule.attempt (h : w.Schedule setup late)
    (hlate : ∀ due, w.session.reconnectAt = some due → due ≤ w.clock → late due w.clock)
    (time : w.stage = .starting ∨ w.stage = .running ∧ w.isDue = true) {g : Nat}
    (ht : w'.trace = w.trace ++ [(w.clock, .entered .connecting), (w.clock, .attempted g)])
    (hsettings : w'.session.settings = w.session.settings)
    (hfailures : w'.session.failures = w.session.failures)
    (htimer : w'.session.reconnectAt = none) (hstage : w'.stage = .running) :
    w'.Schedule setup late where
  settings := hsettings.trans h.settings
  failures := by
    have hh : w'.history = w.history ++ [.entered .connecting, .attempted g] := history_of_trace ht
    rw [hfailures, h.failures, hh, failuresIn_append]
    rfl
  timer := by
    intro _
    rw [htimer, ht, dueIn_append]
    rfl
  fresh := by
    intro hs
    rw [hstage] at hs
    cases hs
  timed := by
    have hentered : Throughout (Event.Timed setup.settings.backoff late)
        (w.trace ++ [(w.clock, .entered .connecting)]) :=
      h.timed.concat trivial
    rw [ht, List.append_cons]
    refine hentered.concat ?_
    rcases time with hstart | ⟨hr, hdue⟩
    · refine .inl fun p hp g' he => ?_
      rcases List.mem_append.1 hp with hp | hp
      · have hown := h.fresh hstart p hp
        rw [he] at hown
        cases hown
      · rw [List.mem_singleton.1 hp] at he
        cases he
    · right
      rw [dueIn_append, List.foldl_cons, List.foldl_nil]
      show ∃ due, dueIn w.trace = some due ∧ _
      rw [← h.timer (by rw [hr]; decide)]
      obtain ⟨due, heq, hle⟩ := isDue_iff.1 hdue
      exact ⟨due, heq, hlate due heq hle⟩

theorem Schedule.accept (h : w.Schedule setup late) (hr : w.stage ≠ .ended) {handlers : List H}
    (ht : w'.trace = w.trace ++ (.entered .connected :: handlers.map .loggedIn).map fun e =>
      (w.clock, e))
    (hsettings : w'.session.settings = w.session.settings)
    (hfailures : w'.session.failures = 0)
    (htimer : w'.session.reconnectAt = w.session.reconnectAt) (hstage : w'.stage = .running) :
    w'.Schedule setup late := by
  have hidle : ∀ e ∈ handlers.map (Event.loggedIn (H := H)), e.isTimeless = true := by
    simp [Event.isTimeless]
  refine ⟨hsettings.trans h.settings, ?_, fun _ => ?_, fun hs => ?_, ?_⟩
  · rw [hfailures, history_of_trace ht, failuresIn_append, List.foldl_cons,
      foldl_tally_of_isTimeless hidle]
    rfl
  · rw [htimer, h.timer hr, ht, dueIn_append, List.map_cons, List.foldl_cons,
      foldl_rearm_of_isTimeless hidle]
    rfl
  · rw [hstage] at hs
    cases hs
  · rw [ht, List.map_cons, List.append_cons]
    exact throughout_timed hidle (h.timed.concat trivial)

theorem Schedule.tearDown (h : w.Schedule setup late) {g : Nat} {failure : Failure}
    (ht : w.TearsDown w' g failure) : w'.Schedule setup late := by
  obtain ⟨es, hidle, hes⟩ := w.session.teardown_eq failure
  have hfailures : w'.session.failures = w.session.failures + 1 := ht.session.failures
  have htimer : w'.session.reconnectAt =
      some (w.clock + delayAfter w.session.settings.backoff w.session.failures) := by
    rw [← retryDelay_eq]
    exact ht.session.reconnectAt
  have htrace : w'.trace = (w.trace ++ es.map fun e => (w.clock, e)) ++
      [(w.clock, .putOff (delayAfter w.session.settings.backoff w.session.failures))] := by
    rw [ht.trace, hes, List.map_append, ← List.append_assoc]
    rfl
  refine ⟨ht.session.settings.trans h.settings, ?_, fun _ => ?_, fun hs => ?_, ?_⟩
  · rw [hfailures, h.failures, ht.history, hes, failuresIn_append, List.foldl_append,
      foldl_tally_of_isTimeless hidle]
    rfl
  · rw [htimer, htrace, dueIn_append]
    rfl
  · rw [ht.stage] at hs
    cases hs
  · rw [htrace]
    refine (throughout_timed hidle h.timed).concat ?_
    show _ = delayAfter _ (failuresIn _)
    rw [List.map_append, List.map_map, failuresIn_append]
    have hmap : (es.map (Prod.snd ∘ fun e => (w.clock, e))) = es := List.map_id' es
    rw [hmap, foldl_tally_of_isTimeless hidle, h.settings, h.failures]
    rfl

/-- **A turn keeps to the schedule.** -/
theorem Schedule.turn (h : w.Schedule setup late)
    (hlate : ∀ due, w.session.reconnectAt = some due → due ≤ w.clock → late due w.clock)
    (hr : w.stage ≠ .ended) (hturn : w.Turn o) (htook : w.Took w' o) : w'.Schedule setup late := by
  have hkeep : (∀ e ∈ o.events, e.isTimeless = true) → o.session.failures = w.session.failures →
      (o.stage = .running ∧ o.session.reconnectAt = w.session.reconnectAt ∨ o.stage = .ended) →
      w'.Schedule setup late := by
    intro hes hfailures htimer
    refine h.keep hes htook.trace htook.settings (htook.session.failures.trans hfailures)
      (fun hs => ?_) fun hs => ?_
    · rcases htimer with ⟨-, heq⟩ | hend
      · exact ⟨hr, htook.session.reconnectAt.trans heq⟩
      · exact absurd (htook.stage.trans hend) hs
    · rw [htook.stage] at hs
      rcases htimer with ⟨hrun, -⟩ | hend
      · rw [hrun] at hs
        cases hs
      · rw [hend] at hs
        cases hs
  cases hturn with
  | attempt _ time =>
    exact h.attempt hlate time htook.trace htook.settings htook.session.failures
      htook.session.reconnectAt htook.stage
  | accept =>
    exact h.accept hr htook.trace htook.settings htook.session.failures htook.session.reconnectAt
      htook.stage
  | tearDown held => exact h.tearDown ⟨held, htook.session, htook.trace, htook.stage⟩
  | stop =>
    refine hkeep ?_ rfl (.inr rfl)
    simp only [farewell, List.forall_mem_append, List.forall_mem_cons, List.forall_mem_map]
    exact ⟨⟨fun _ _ => rfl, fun _ _ => rfl⟩, rfl, fun _ _ => rfl⟩
  | deliver =>
    refine hkeep ?_ rfl (.inl ⟨rfl, rfl⟩)
    simp only [List.forall_mem_map]
    exact fun _ _ => rfl
  | take => exact hkeep (List.forall_mem_singleton.2 rfl) rfl (.inl ⟨rfl, rfl⟩)
  | greet => exact hkeep (List.forall_mem_singleton.2 rfl) rfl (.inl ⟨rfl, rfl⟩)
  | reply => exact hkeep (List.forall_mem_singleton.2 rfl) rfl (.inl ⟨rfl, rfl⟩)
  | register => exact hkeep (List.forall_mem_nil _) rfl (.inl ⟨rfl, rfl⟩)
  | onDisconnect => exact hkeep (List.forall_mem_nil _) rfl (.inl ⟨rfl, rfl⟩)
  | onLogin => exact hkeep (List.forall_mem_nil _) rfl (.inl ⟨rfl, rfl⟩)
  | skip => exact hkeep (List.forall_mem_nil _) rfl (.inl ⟨rfl, rfl⟩)

theorem Schedule.aside {delay : Nat} {handed : List (Command H)} (h : w.Schedule setup late)
    (ha : w.Aside w' delay handed) : w'.Schedule setup late := by
  obtain ⟨es, hown, ht⟩ := ha.trace
  have hidle : ∀ e ∈ es, e.isTimeless = true := by
    intro e he
    have := hown e he
    cases e <;> first | rfl | cases this
  refine h.keep hidle ht (by rw [ha.session]) (by rw [ha.session]) (fun hs => ?_) fun hs => ?_
  · exact ⟨ha.stage ▸ hs, by rw [ha.session]⟩
  · exact ⟨ha.stage ▸ hs, hown⟩

theorem schedule_start (setup : Setup H) (late : Nat → Nat → Prop) :
    (start setup.session).Schedule setup late := by
  obtain ⟨subscriptions, hs⟩ := setup.session_eq
  rw [hs]
  exact ⟨rfl, rfl, fun _ => rfl, fun _ _ hp => (List.not_mem_nil hp).elim, throughout_nil⟩

/-- **Every run keeps to the schedule**, provided that an attempt that could be made now would not
be too late. -/
theorem schedule_run {acts : List (Act H)}
    (hlate : Throughout (fun before (_ : Act H) => ∀ due,
      (run setup before).session.reconnectAt = some due → due ≤ (run setup before).clock →
        late due (run setup before).clock) acts) :
    (run setup acts).Schedule setup late := by
  refine hlate.induction (motive := fun acts => (run setup acts).Schedule setup late)
    (schedule_start setup late) fun before a ih hl => ?_
  rw [run_concat]
  rcases act_cases_of_run setup before a with haside | ⟨-, hr, o, hturn, htook⟩
  · exact ih.aside haside
  · exact ih.turn hl hr hturn htook

/-! ### Time that does not pass by an attempt -/

/-- Time does not pass by an attempt that is put off before it is made. -/
def Prompt (setup : Setup H) (acts : List (Act H)) : Prop :=
  Throughout (fun before a => ∀ milliseconds, a = Act.elapse milliseconds → ∀ due,
    (run setup before).session.reconnectAt = some due →
      (run setup before).clock + milliseconds ≤ due) acts

/-- A run in which no time passes is one. -/
theorem prompt_of_ne {acts : List (Act H)}
    (h : ∀ a ∈ acts, ∀ milliseconds, a ≠ .elapse milliseconds) : Prompt setup acts := by
  refine throughout_nil.append acts fun a ha before milliseconds he => ?_
  exact absurd he (h a ha milliseconds)

theorem Turn.reconnectAt_cases (h : w.Turn o) :
    o.session.reconnectAt = w.session.reconnectAt ∨ o.session.reconnectAt = none ∨
      ∃ delay, o.session.reconnectAt = some (w.clock + delay) := by
  cases h with
  | attempt => exact .inr (.inl rfl)
  | stop => exact .inr (.inl rfl)
  | tearDown => exact .inr (.inr ⟨_, rfl⟩)
  | take => exact .inl rfl
  | register => exact .inl rfl
  | onDisconnect => exact .inl rfl
  | onLogin => exact .inl rfl
  | greet => exact .inl rfl
  | accept => exact .inl rfl
  | reply => exact .inl rfl
  | deliver => exact .inl rfl
  | skip => exact .inl rfl

/-- In such a run no attempt is overdue. -/
theorem Prompt.clock_le {acts : List (Act H)} (h : Prompt setup acts) :
    ∀ due, (run setup acts).session.reconnectAt = some due → (run setup acts).clock ≤ due := by
  refine h.induction (motive := fun acts => ∀ due,
    (run setup acts).session.reconnectAt = some due → (run setup acts).clock ≤ due) ?_ ?_
  · intro due hdue
    obtain ⟨subscriptions, hs⟩ := setup.session_eq
    rw [show (run setup []).session = setup.session from rfl, hs] at hdue
    cases hdue
  · intro before a ih hprompt due hdue
    rw [run_concat] at hdue ⊢
    rcases act_cases_of_run setup before a with haside | ⟨-, -, o, hturn, htook⟩
    · rw [haside.session] at hdue
      rw [haside.clock]
      cases a with
      | elapse milliseconds => exact hprompt milliseconds rfl due hdue
      | _ => exact ih due hdue
    · rw [htook.session.reconnectAt] at hdue
      rw [htook.clock]
      rcases hturn.reconnectAt_cases with heq | heq | ⟨delay, heq⟩
      · rw [heq] at hdue
        exact ih due hdue
      · rw [heq] at hdue
        cases hdue
      · rw [heq] at hdue
        cases hdue
        exact Nat.le_add_right _ _

/-- In such a run every attempt is made when it is due. -/
theorem Prompt.schedule {acts : List (Act H)} (h : Prompt setup acts) :
    (run setup acts).Schedule setup fun due now => now = due := by
  refine schedule_run fun before a hp due hdue hle => ?_
  have hbefore : Prompt setup before :=
    Throughout.of_prefix h ((List.prefix_append before [a]).trans hp)
  exact Nat.le_antisymm (hbefore.clock_le due hdue) hle

/-! ### Attempts that are due -/

/-- The session has nothing to wait for before its next attempt. -/
structure MayAttempt (w : World H) : Prop where
  generations : w.Generations
  held : w.session.held = none
  stage : w.stage = .running
  cancelled : w.cancelled = false
  handles : w.handles ≠ 0
  due : ∃ due, w.session.reconnectAt = some due ∧ due ≤ w.clock

/-- Without a connection a command changes only the session. -/
theorem obey_of_held_eq_none (hh : w.session.held = none) (command : Command H) :
    ∃ session es, w.obey command = { w with session }.note es ∧ session.held = none ∧
      session.reconnectAt = w.session.reconnectAt := by
  cases command with
  | submit request handler =>
    exact ⟨w.session.enqueue request handler, [.taken request handler], advance_of_held_eq_none hh,
      hh, rfl⟩
  | subscribe event handler =>
    have hheld : (w.session.subscribe event handler).held = none := hh
    exact ⟨w.session.subscribe event handler, [], by simp [obey, hheld, note_nil], hh, rfl⟩
  | onDisconnect handler => exact ⟨_, [], (note_nil _).symm, hh, rfl⟩
  | onLogin handler => exact ⟨_, [], (note_nil _).symm, hh, rfl⟩

/-- The session takes one thing from its channels; if there is none, it makes the attempt. -/
theorem MayAttempt.step (h : w.MayAttempt) :
    (w.backlog = 0 ∧ ∃ g es, (w.act .step).trace = w.trace ++ es ++ [(w.clock, .attempted g)]) ∨
      ((w.act .step).MayAttempt ∧ (w.act .step).backlog + 1 = w.backlog ∧
        (w.act .step).clock = w.clock ∧ ∃ es, (w.act .step).trace = w.trace ++ es) := by
  have hgenerations := h.generations.act .step
  cases hc : w.commands with
  | cons command rest =>
    right
    have hstep : w.act .step = { w with commands := rest }.obey command := by
      simp [act, step?, runStep?, h.stage, h.cancelled, hc]
    obtain ⟨session, es, hobey, hheld, htimer⟩ :=
      obey_of_held_eq_none (w := { w with commands := rest }) h.held command
    rw [hstep, hobey] at hgenerations ⊢
    have hdue : ∃ due, session.reconnectAt = some due ∧ due ≤ w.clock := htimer ▸ h.due
    refine ⟨⟨hgenerations, hheld, h.stage, h.cancelled, h.handles, hdue⟩, ?_, rfl, _, rfl⟩
    simp only [backlog, note, hc, List.length_cons]
    omega
  | nil =>
    cases hn : w.notices with
    | cons p rest =>
      obtain ⟨g, notice⟩ := p
      right
      -- Without a connection every notice is one of an earlier generation.
      have hstale : ¬ g = w.session.generation := by
        have := h.generations.notices (g, notice) (by simp [hn])
        simp only [h.held, reduceCtorEq, false_or] at this
        omega
      have hstep : w.act .step = { w with notices := rest } := by
        simp [act, step?, runStep?, h.stage, h.cancelled, hc, hn, h.handles, hstale]
      rw [hstep] at hgenerations ⊢
      refine ⟨⟨hgenerations, h.held, h.stage, h.cancelled, h.handles, h.due⟩, ?_, rfl, [],
        (List.append_nil _).symm⟩
      simp only [backlog, hn, List.length_cons]
      omega
    | nil =>
      left
      have hstep : w.act .step =
          { w with session := { w.session with reconnectAt := none } }.connect := by
        simp [act, step?, runStep?, h.stage, h.cancelled, hc, hn, h.handles, isDue_iff.2 h.due]
      refine ⟨by simp [backlog, hc, hn], w.session.generation + 1,
        [(w.clock, .entered .connecting)], ?_⟩
      rw [hstep, connect_eq]
      simp [note]

/-- **An attempt that is due is made once the session has taken all that waits for it.** -/
theorem attempt_of_due (h : w.MayAttempt) :
    ∃ g es, (w.all (List.replicate (w.backlog + 1) .step)).trace =
      w.trace ++ es ++ [(w.clock, .attempted g)] := by
  generalize hn : w.backlog = n
  induction n generalizing w with
  | zero =>
    rcases h.step with ⟨-, hmade⟩ | ⟨-, hback, -⟩
    · exact hmade
    · omega
  | succ n ih =>
    rcases h.step with ⟨hback, -⟩ | ⟨hnext, hback, hclock, es, ht⟩
    · omega
    · obtain ⟨g, es', ht'⟩ := ih hnext (by omega)
      refine ⟨g, es ++ es', ?_⟩
      rw [hclock, ht] at ht'
      show ((w.act .step).all (List.replicate (n + 1) .step)).trace = _
      rw [ht']
      simp

/-! ### The number of failures -/

/-- Only a teardown adds to the number of failures, and only a login that is accepted lowers it. -/
theorem Turn.failures_cases (h : w.Turn o) (htook : w.Took w' o) :
    o.session.failures = w.session.failures ∨
      (o.session.failures = w.session.failures + 1 ∧ ∃ g failure, w.TearsDown w' g failure) ∨
      (o.session.failures = 0 ∧ ∃ g data, w.LoginAccepted g data) := by
  cases h with
  | tearDown held =>
    exact .inr (.inl ⟨rfl, _, _, held, htook.session, htook.trace, htook.stage⟩)
  | accept held notices _ _ answered ok =>
    exact .inr (.inr ⟨rfl, _, _, held, ⟨_, notices⟩, answered, ok⟩)
  | attempt => exact .inl rfl
  | stop => exact .inl rfl
  | take => exact .inl rfl
  | register => exact .inl rfl
  | onDisconnect => exact .inl rfl
  | onLogin => exact .inl rfl
  | greet => exact .inl rfl
  | reply => exact .inl rfl
  | deliver => exact .inl rfl
  | skip => exact .inl rfl

theorem Turn.failures_of_connected (h : w.Turn o) (hs : w.session.state ≠ .connected)
    (hs' : o.session.state = .connected) : o.session.failures = 0 := by
  cases h with
  | accept => rfl
  | attempt => cases hs'
  | stop => cases hs'
  | greet => cases hs'
  | tearDown => cases hs'
  | take => exact absurd hs' hs
  | register => exact absurd hs' hs
  | onDisconnect => exact absurd hs' hs
  | onLogin => exact absurd hs' hs
  | reply => exact absurd hs' hs
  | deliver => exact absurd hs' hs
  | skip => exact absurd hs' hs

section Runs

variable (setup : Setup H) (acts : List (Act H))

theorem failures_cases_of_act (a : Act H) :
    ((run setup acts).act a).session.failures = (run setup acts).session.failures ∨
      (((run setup acts).act a).session.failures = (run setup acts).session.failures + 1 ∧
        ∃ g failure, (run setup acts).TearsDown ((run setup acts).act a) g failure) ∨
      (((run setup acts).act a).session.failures = 0 ∧
        ∃ g data, (run setup acts).LoginAccepted g data) := by
  rcases act_cases_of_run setup acts a with haside | ⟨-, -, o, hturn, htook⟩
  · rw [haside.session]
    exact .inl rfl
  · rw [htook.session.failures]
    exact hturn.failures_cases htook

/-- **In every run the delay after a teardown is the entry of the table for the teardowns since the
last login, and no attempt but the first is made except for a delay, and not before it is over.** A
session gives its connection up without ending only by such a teardown, which counts once. If time
does not pass by an attempt, it is made just when the delay is over; an attempt that is due does not
wait for anything but what is in the channels already. Only a login that is accepted lowers the
count of teardowns, and it sets it to zero. -/
theorem reconnects_keep_schedule :
    (∀ before delay after, (run setup acts).history = before ++ .putOff delay :: after →
      delay = delayAfter setup.settings.backoff (failuresIn before)) ∧
    (run setup acts).session.failures = failuresIn (run setup acts).history ∧
    ((run setup acts).stage ≠ .ended →
      (run setup acts).session.reconnectAt = dueIn (run setup acts).trace) ∧
    (∀ a g, (run setup acts).session.held = some g →
      ((run setup acts).act a).session.held ≠ some g → ((run setup acts).act a).stage = .ended ∨
        ∃ failure, (run setup acts).TearsDown ((run setup acts).act a) g failure ∧
          ((run setup acts).act a).session.reconnectAt = some ((run setup acts).clock +
            delayAfter setup.settings.backoff (failuresIn (run setup acts).history))) ∧
    (∀ before now g after, (run setup acts).trace = before ++ (now, .attempted g) :: after →
      (∀ p ∈ before, ∀ g', p.2 ≠ .attempted g') ∨ ∃ due, dueIn before = some due ∧ due ≤ now) ∧
    (Prompt setup acts → ∀ before now g after,
      (run setup acts).trace = before ++ (now, .attempted g) :: after →
      (∀ p ∈ before, ∀ g', p.2 ≠ .attempted g') ∨ dueIn before = some now) ∧
    (∀ due, (run setup acts).stage = .running → (run setup acts).cancelled = false →
      (run setup acts).handles ≠ 0 → (run setup acts).session.reconnectAt = some due →
      ∃ g es, (run setup (acts ++ .elapse (due - (run setup acts).clock) ::
          List.replicate ((run setup acts).backlog + 1) .step)).trace =
        (run setup acts).trace ++ es ++ [(max (run setup acts).clock due, .attempted g)]) ∧
    (∀ a, ((run setup acts).act a).session.failures = (run setup acts).session.failures ∨
      (((run setup acts).act a).session.failures = (run setup acts).session.failures + 1 ∧
        ∃ g failure, (run setup acts).TearsDown ((run setup acts).act a) g failure) ∨
      (((run setup acts).act a).session.failures = 0 ∧
        ∃ g data, (run setup acts).LoginAccepted g data)) ∧
    (∀ a, (run setup acts).session.state ≠ .connected →
      ((run setup acts).act a).session.state = .connected →
      ((run setup acts).act a).session.failures = 0) := by
  have hs : (run setup acts).Schedule setup (· ≤ ·) := schedule_run fun _ _ _ _ _ hle => hle
  refine ⟨fun before delay after h => ?_, hs.failures, hs.timer, fun a g hheld hne => ?_,
    fun before now g after h => ?_, fun hprompt before now g after h => ?_,
    fun due hr hc hhandles hdue => ?_,
    failures_cases_of_act setup acts, fun a hstate hstate' => ?_⟩
  · obtain ⟨pre, _, htrace, hpre, hrest⟩ := List.map_eq_append_iff.1 h
    obtain ⟨⟨now, _⟩, post, rfl, rfl, -⟩ := List.map_eq_cons_iff.1 hrest
    have htimed := hs.timed
    rw [htrace] at htimed
    rw [← hpre]
    exact htimed.at
  · rcases tearsDown_of_givesUp setup acts hheld hne with hend | ⟨failure, ht⟩
    · exact .inl hend
    · refine .inr ⟨failure, ht, ht.session.reconnectAt.trans ?_⟩
      rw [← hs.settings, ← hs.failures, ← retryDelay_eq]
      rfl
  · have htimed := hs.timed
    rw [h] at htimed
    exact htimed.at
  · have htimed := hprompt.schedule.timed
    rw [h] at htimed
    refine htimed.at.imp_right ?_
    rintro ⟨due, hdue, rfl⟩
    exact hdue
  · have hg := generations_run setup acts
    have hmax : (run setup acts).clock + (due - (run setup acts).clock) =
        max (run setup acts).clock due := by
      omega
    have hmay : ((run setup acts).act (.elapse (due - (run setup acts).clock))).MayAttempt := by
      refine ⟨hg.act _, (hg.timer.1 (by simp [hdue])).1, hr, hc, hhandles, due, hdue, ?_⟩
      show due ≤ (run setup acts).clock + (due - (run setup acts).clock)
      omega
    rw [run_append, ← hmax]
    exact attempt_of_due hmay
  · rcases act_cases_of_run setup acts a with haside | ⟨-, -, o, hturn, htook⟩
    · rw [haside.session] at hstate'
      exact absurd hstate' hstate
    · rw [htook.session.state] at hstate'
      rw [htook.session.failures]
      exact hturn.failures_of_connected hstate hstate'

end Runs

/-- A connection that is lost, and a second one that does not come about. -/
def sampleRefusal : List (Act Nat) :=
  sampleLoss ++ [.step, .offer 3 (.error (.connect "localhost" defaultPort "refused")), .linkStep 3]

/-- The first failure after a login is followed by no delay, the second one by two seconds. -/
theorem sampleRefusal_on_schedule :
    (∃ failure, (run sampleSetup sampleRefusal).TearsDown
      ((run sampleSetup sampleRefusal).act .step) 3 failure) ∧
    (∃ before, (run sampleSetup (sampleRefusal ++ [.step] ++ [.elapse 2000] ++ [.step])).trace =
        before ++ [(2000, .attempted 5)] ∧ dueIn before = some 2000) ∧
    ∃ g es, (run sampleSetup (sampleRefusal ++ [.step] ++ [.elapse 2000, .step])).trace =
      (run sampleSetup (sampleRefusal ++ [.step])).trace ++ es ++ [(2000, .attempted g)] := by
  have hdue : (run sampleSetup (sampleRefusal ++ [.step])).session.reconnectAt = some 2000 := by
    decide +kernel
  have hclock : (run sampleSetup (sampleRefusal ++ [.step])).clock = 0 := by decide +kernel
  refine ⟨?_, ?_, ?_⟩
  · have hheld : (run sampleSetup sampleRefusal).session.held = some 3 := by decide +kernel
    have hgone : ((run sampleSetup sampleRefusal).act .step).session.held = none := by
      decide +kernel
    have hgoes : ((run sampleSetup sampleRefusal).act .step).stage = .running := by decide +kernel
    obtain ⟨-, -, -, htears, -⟩ := reconnects_keep_schedule sampleSetup sampleRefusal
    rcases htears .step 3 hheld (by rw [hgone]; simp) with hend | ⟨failure, ht, -⟩
    · rw [hgoes] at hend
      cases hend
    · exact ⟨failure, ht⟩
  · have hprompt : Prompt sampleSetup (sampleRefusal ++ [.step] ++ [.elapse 2000] ++ [.step]) := by
      have hnone : Prompt sampleSetup (sampleRefusal ++ [.step]) :=
        prompt_of_ne (by simp [sampleRefusal, sampleLoss, sampleLogin])
      refine Throughout.concat (Throughout.concat hnone ?_) ?_
      · rintro _ ⟨⟩ due h
        rw [hdue] at h
        cases h
        omega
      · rintro _ ⟨⟩
    have hfirst : (run sampleSetup
        (sampleRefusal ++ [.step] ++ [.elapse 2000] ++ [.step])).trace[1]? =
          some (0, .attempted 1) := by
      decide +kernel
    have hlast : (run sampleSetup
        (sampleRefusal ++ [.step] ++ [.elapse 2000] ++ [.step])).trace.getLast? =
          some (2000, .attempted 5) := by
      decide +kernel
    obtain ⟨-, -, -, -, -, hexact, -⟩ :=
      reconnects_keep_schedule sampleSetup (sampleRefusal ++ [.step] ++ [.elapse 2000] ++ [.step])
    obtain ⟨before, h⟩ := List.getLast?_eq_some_iff.1 hlast
    refine ⟨before, h, (hexact hprompt before 2000 5 [] h).resolve_left fun hnot => ?_⟩
    have hmem := List.mem_of_getElem? hfirst
    rw [h] at hmem
    rcases List.mem_append.1 hmem with hmem | hmem
    · exact hnot _ hmem 1 rfl
    · cases List.mem_singleton.1 hmem
  · have hr : (run sampleSetup (sampleRefusal ++ [.step])).stage = .running := by decide +kernel
    have hc : (run sampleSetup (sampleRefusal ++ [.step])).cancelled = false := by decide +kernel
    have hhandles : (run sampleSetup (sampleRefusal ++ [.step])).handles = 1 := by decide +kernel
    have hbacklog : (run sampleSetup (sampleRefusal ++ [.step])).backlog = 0 := by decide +kernel
    obtain ⟨-, -, -, -, -, -, hattempt, -⟩ :=
      reconnects_keep_schedule sampleSetup (sampleRefusal ++ [.step])
    obtain ⟨g, es, h⟩ := hattempt 2000 hr hc (by rw [hhandles]; decide) hdue
    rw [hclock, hbacklog] at h
    exact ⟨g, es, h⟩

end World

end Session

end PrintClient
