import PrintClient.Proofs.Connection.Batches
import PrintClient.Proofs.Session.Dues

/-!
# Delivery

What the frames of a connection give cause for is served in the order of the frames, as far as the
session has come before it discards the connection. What is not yet served waits in the channel.

* `Waits`: what is left of what is due waits in the channel;
* `Delivered`: where a session stands with what is due on behalf of a connection;
* `Turn.delivered`, `delivered_hear`: what turns and connections do to it;
* `delivered_run`, `served_of_steps`: it is so in every run, and what waits is served in the end;
* `events_delivered`: events are delivered exactly, in order and across reconnects.
-/

namespace PrintClient.Session

variable {H : Type}

theorem eq_answer_of_notice {d : Due H} {data : Json} (h : d.notice = .completed data) :
    d = .answer data := by
  cases d with
  | event => cases h
  | answer => cases h; rfl

theorem eq_event_of_notice {d : Due H} {e : PushEvent} (h : d.notice = .event e) :
    ∃ known, d = .event e known := by
  cases d with
  | event _ known => cases h; exact ⟨known, rfl⟩
  | answer => cases h

/-- What is left of what is due on behalf of a connection waits in the channel, and no handler has
gone since. -/
structure Waits (s : Session H) (notices : List (Nat × Notice)) (g : Nat) (rest : List (Due H)) :
    Prop where
  notices : causes g notices = rest.map Due.notice
  handlers : ∀ e known, .event e known ∈ rest → known <+: s.handlersOf e.name

/-- The calls serve what is due on behalf of a connection, from the first on; as long as the
connection is held, what is left waits in the channel. -/
structure Delivered (registered : String → List H) (s : Session H) (notices : List (Nat × Notice))
    (g : Nat) (dues : List (Due H)) (calls : List (Event H)) : Prop where
  served : ∃ rest, Served registered dues calls rest ∧ (s.held = some g → Waits s notices g rest)
  /-- Nothing is due on behalf of a connection that is not yet made. -/
  unmade : s.generation < g → dues = [] ∧ calls = []

namespace Delivered

variable {registered registered' : String → List H} {s s' : Session H}
  {notices notices' : List (Nat × Notice)} {g : Nat} {dues : List (Due H)} {calls : List (Event H)}

/-- A change that is not about what is due on behalf of this connection. -/
theorem mono (h : Delivered registered s notices g dues calls)
    (hheld : s'.held = some g → s.held = some g)
    (hnotices : s'.held = some g → causes g notices' = causes g notices)
    (hhandlers : ∀ name, s.handlersOf name <+: s'.handlersOf name)
    (hgeneration : s.generation ≤ s'.generation) :
    Delivered registered s' notices' g dues calls where
  served := by
    obtain ⟨rest, hserved, hwaits⟩ := h.served
    refine ⟨rest, hserved, fun hg => ⟨?_, fun e known he => ?_⟩⟩
    · rw [hnotices hg]
      exact (hwaits (hheld hg)).notices
    · exact ((hwaits (hheld hg)).handlers e known he).trans (hhandlers e.name)
  unmade := fun hg => h.unmade (Nat.lt_of_le_of_lt hgeneration hg)

/-- Once a connection is not held any more nothing is asked of what is left. -/
theorem of_not_held (h : Delivered registered s notices g dues calls) (hheld : s'.held ≠ some g)
    (hgeneration : s.generation ≤ s'.generation) :
    Delivered registered s' notices' g dues calls where
  served := by
    obtain ⟨rest, hserved, -⟩ := h.served
    exact ⟨rest, hserved, fun hg => absurd hg hheld⟩
  unmade := fun hg => h.unmade (Nat.lt_of_le_of_lt hgeneration hg)

/-- More handlers are registered. -/
theorem registered_mono (h : Delivered registered s notices g dues calls)
    (hmore : ∀ name, registered name <+: registered' name) :
    Delivered registered' s notices g dues calls where
  served := by
    obtain ⟨rest, hserved, hwaits⟩ := h.served
    exact ⟨rest, hserved.mono hmore, hwaits⟩
  unmade := h.unmade

/-- A notice of the connection that is held is acted on: what it was sent for is served. -/
theorem heed {notice : Notice} {rest : List (Nat × Notice)} {es : List (Event H)}
    (h : Delivered registered s ((g, notice) :: rest) g dues calls) (hheld : s.held = some g)
    (hcause : notice.isCause = true) (hgeneration : s'.generation = g)
    (hhandlers : ∀ name, s'.handlersOf name = s.handlersOf name)
    (hserves : ∀ d : Due H, d.notice = notice →
      (∀ e known, d = .event e known → known <+: s.handlersOf e.name) → Serves registered d es) :
    Delivered registered s' rest g dues (calls ++ es) where
  served := by
    obtain ⟨left, hserved, hwaits⟩ := h.served
    obtain ⟨hcauses, hknown⟩ := hwaits hheld
    rw [causes, List.filterMap_cons, if_pos ⟨rfl, hcause⟩] at hcauses
    obtain ⟨d, later, rfl, hd, hlater⟩ := List.map_eq_cons_iff.1 hcauses.symm
    refine ⟨later, hserved.serve (hserves d hd ?_), fun _ => ⟨hlater.symm, fun e known he => ?_⟩⟩
    · rintro e known rfl
      exact hknown e known List.mem_cons_self
    · rw [hhandlers]
      exact hknown e known (List.mem_cons_of_mem d he)
  unmade := fun hlt => absurd hlt (by omega)

/-- More is due, and the notices of it go into the channel. -/
theorem more (h : Delivered registered s notices g dues calls) {more : List (Nat × Notice)}
    {new : List (Due H)} (hcauses : causes g more = new.map Due.notice)
    (hhandlers : ∀ e known, .event e known ∈ new → known = s.handlersOf e.name)
    (hmade : new = [] ∨ g ≤ s.generation) :
    Delivered registered s (notices ++ more) g (dues ++ new) calls where
  served := by
    obtain ⟨rest, hserved, hwaits⟩ := h.served
    refine ⟨rest ++ new, hserved.append new, fun hheld => ⟨?_, fun e known he => ?_⟩⟩
    · rw [causes_append, (hwaits hheld).notices, hcauses, List.map_append]
    · rcases List.mem_append.1 he with he | he
      · exact (hwaits hheld).handlers e known he
      · obtain rfl := hhandlers e known he
        exact List.prefix_refl _
  unmade := by
    intro hlt
    rcases hmade with rfl | hle
    · rw [List.append_nil]
      exact h.unmade hlt
    · omega

end Delivered

namespace World

variable {w w' : World H} {o : Outcome H} {registered : String → List H} {g : Nat}
  {dues : List (Due H)} {calls : List (Event H)}

/-! ### Turns of the session -/

/-- Handlers of events, responses and logins are called by a session that holds a connection. -/
theorem Turn.held_of_call (h : w.Turn o) {e : Event H} (he : e ∈ o.events)
    (hcall : e.isCall = true) : ∃ g, w.session.held = some g := by
  have hno : ∀ es : List (Event H), (∀ e ∈ es, e.isCall = false) → e ∈ es →
      ∃ g, w.session.held = some g := by
    intro es hes he
    rw [hes e he] at hcall
    cases hcall
  cases h with
  | accept held => exact ⟨_, held⟩
  | reply held => exact ⟨_, held⟩
  | deliver held => exact ⟨_, held⟩
  | stop => exact hno _ (w.session.isCall_farewell w.commands) he
  | tearDown => exact hno _ (w.session.isCall_teardown _) he
  | _ => exact hno _ (by simp [Event.isCall]) he

/-- A turn calls nobody on behalf of a connection that is not held; it may hold a new one. -/
theorem Turn.delivered_of_not_held (h : w.Turn o) (hg : w.Generations)
    (hheld : w.session.held ≠ some g)
    (hd : Delivered registered w.session w.notices g dues calls) :
    Delivered registered o.session o.notices g dues calls := by
  cases h with
  | attempt held =>
    by_cases hnew : g = w.session.generation + 1
    · -- The connection is made now.
      obtain ⟨rfl, rfl⟩ := hd.unmade (by omega)
      refine ⟨⟨[], .none [], fun _ => ⟨?_, by simp⟩⟩, fun _ => ⟨rfl, rfl⟩⟩
      refine List.filterMap_eq_nil_iff.2 fun p hp => if_neg fun hc => ?_
      have hlt := (hg.notices p hp).resolve_left (by simp [held])
      omega
    · exact hd.of_not_held (fun h => hnew (Option.some.inj h).symm) (Nat.le_succ _)
  | stop => exact hd.of_not_held (fun h => by cases h) (Nat.le_succ _)
  | tearDown => exact hd.of_not_held (fun h => by cases h) (Nat.le_succ _)
  | _ => exact hd.of_not_held hheld (Nat.le_refl _)

/-- A turn serves what is due first on behalf of the connection that is held, or it calls nobody. -/
theorem Turn.delivered_of_held (h : w.Turn o) (hg : w.Generations)
    (hknown : ∀ name, w.session.handlersOf name <+: registered name)
    (hheld : w.session.held = some g)
    (hd : Delivered registered w.session w.notices g dues calls) :
    Delivered registered o.session o.notices g dues
      (calls ++ o.events.filterMap (w.callOn? g)) := by
  have hno : ∀ es : List (Event H), (∀ e ∈ es, e.isCall = false) →
      calls ++ es.filterMap (w.callOn? g) = calls := by
    intro es hes
    rw [filterMap_callOn?_of_no_call hes, List.append_nil]
  have hgeneration := (hg.held g hheld).1.symm
  cases h with
  | attempt held =>
    rw [held] at hheld
    cases hheld
  | stop =>
    rw [hno _ (w.session.isCall_farewell w.commands)]
    exact hd.of_not_held (fun h => by cases h) (Nat.le_succ _)
  | tearDown =>
    rw [hno _ (w.session.isCall_teardown _)]
    exact hd.of_not_held (fun h => by cases h) (Nat.le_succ _)
  | take =>
    rw [hno _ (by simp [Event.isCall])]
    exact hd
  | @register event handler =>
    rw [hno _ (by simp)]
    refine hd.mono (fun h => h) (fun _ => rfl) (fun name => ?_) (Nat.le_refl _)
    rw [handlersOf_subscribe]
    exact List.prefix_append _ _
  | onDisconnect =>
    rw [hno _ (by simp)]
    exact hd.mono (fun h => h) (fun _ => rfl) (fun _ => List.prefix_refl _) (Nat.le_refl _)
  | onLogin =>
    rw [hno _ (by simp)]
    exact hd.mono (fun h => h) (fun _ => rfl) (fun _ => List.prefix_refl _) (Nat.le_refl _)
  | greet _ notices =>
    rw [hno _ (by simp [Event.isCall])]
    refine hd.mono (fun h => h) (fun _ => ?_) (fun _ => List.prefix_refl _) (Nat.le_refl _)
    rw [notices, causes_cons_of_not (by simp [Notice.isCause])]
  | @skip g' notice rest notices stale =>
    rw [hno _ (by simp)]
    refine hd.mono (fun h => h) (fun _ => ?_) (fun _ => List.prefix_refl _) (Nat.le_refl _)
    have hold : ¬ (g' = g ∧ notice.isCause = true) := by
      rintro ⟨rfl, -⟩
      exact stale hheld
    rw [notices, causes_cons_of_not hold]
  | @accept g' data rest held notices state inFlight answered ok =>
    obtain rfl := Option.some.inj (held.symm.trans hheld)
    have hcalls : (.entered .connected :: w.session.onLogin.map .loggedIn).filterMap
        (w.callOn? g') = w.session.onLogin.map .loggedIn := by
      rw [List.filterMap_cons, callOn?, if_neg (by simp [Event.isCall])]
      exact filterMap_callOn?_of_calls held (by simp [Event.isCall])
    rw [notices] at hd
    rw [hcalls]
    refine hd.heed held rfl hgeneration (fun _ => rfl) fun d hdata _ => ?_
    obtain rfl := eq_answer_of_notice hdata
    exact .login data w.session.onLogin ok
  | @reply g' data rest request handler held notices =>
    obtain rfl := Option.some.inj (held.symm.trans hheld)
    rw [notices] at hd
    rw [filterMap_callOn?_of_calls held (by simp [Event.isCall])]
    refine hd.heed held rfl hgeneration (fun _ => rfl) fun d hdata _ => ?_
    obtain rfl := eq_answer_of_notice hdata
    exact .reply data handler
  | @deliver g' e rest held notices =>
    obtain rfl := Option.some.inj (held.symm.trans hheld)
    rw [notices] at hd
    rw [filterMap_callOn?_of_calls held (by simp [Event.isCall])]
    refine hd.heed held rfl hgeneration (fun _ => rfl) fun d hevent hsince => ?_
    obtain ⟨known, rfl⟩ := eq_event_of_notice hevent
    exact .event e known _ (hsince e known rfl) (hknown e.name)

/-- **A turn serves what is due first, or it calls nobody.** -/
theorem Turn.delivered (h : w.Turn o) (hg : w.Generations)
    (hknown : ∀ name, w.session.handlersOf name <+: registered name)
    (hd : Delivered registered w.session w.notices g dues calls) :
    Delivered registered o.session o.notices g dues
      (calls ++ o.events.filterMap (w.callOn? g)) := by
  by_cases hheld : w.session.held = some g
  · exact h.delivered_of_held hg hknown hheld hd
  · rw [filterMap_callOn?_of_not_held hheld, List.append_nil]
    exact h.delivered_of_not_held hg hheld hd

/-! ### Steps of connections -/

section Hear

variable {g' : Nat} {l l' : SessionLink H} {effects : List (Connection.Effect (Reply H) String)}
  (hd : Delivered registered w.session w.notices g dues calls)

include hd

/-- What a connection reads gives cause for what it tells its session. -/
theorem delivered_read (hg : w.Generations) (hf : w.Forwarding)
    {t : Connection.Talk (Reply H) String} {i : Inbound} (hl : w.link? g' = some l)
    (hp : l.connection.phase = .talking t) (hc : l.connection.cancelled = false)
    (hi : l.connection.inbox = []) :
    Delivered registered w.session
      (w.notices ++ ((l.connection.receive t i).2.filterMap noticeOf).map fun n => (g', n)) g
      (dues ++ w.duesOf g (.read g' i)) calls := by
  have hheld := hg.held_of_open hl hc
  have htable : ∀ event, t.handlers.lookup event = w.session.forward? event := by
    intro event
    have h := hf.forwards g' l hheld hl (by simp [Connection.IsOver, hp]) event
    rw [← h]
    simp [Connection.forwarder?, hi, Connection.handlers, hp]
  have hpending : w.pending? g' = t.pending := by
    simp [pending?, hl, hp]
  by_cases hgg : g' = g
  · subst hgg
    refine hd.more ?_ (fun e known => handlers_of_mem_duesOf)
      (.inr (Nat.le_of_eq (hg.held g' hheld).1))
    rw [causes_map, if_pos rfl, causes_receive hp htable, duesOf, if_pos rfl, hpending]
  · rw [duesOf, if_neg hgg]
    refine hd.more ?_ (by simp) (.inl rfl)
    rw [causes_map, if_neg hgg]
    rfl

/-- What a connection tells its session of its own accord calls for no handler. -/
theorem delivered_of_isOfFrame (hframe : ∀ e ∈ effects, e.isOfFrame = false) :
    Delivered registered w.session
      (w.notices ++ (effects.filterMap noticeOf).map fun n => (g', n)) g dues calls := by
  have hcauses : (effects.filterMap noticeOf).filter Notice.isCause = [] := by
    refine List.filter_eq_nil_iff.2 fun notice hn => ?_
    obtain ⟨effect, heffect, hnotice⟩ := List.mem_filterMap.1 hn
    rw [isCause_of_noticeOf hnotice, hframe effect heffect]
    exact Bool.false_ne_true
  rw [← List.append_nil dues]
  refine hd.more ?_ (by simp) (.inl rfl)
  rw [causes_map, hcauses]
  split <;> rfl

/-- **A step of a connection gives cause for what it tells its session.** -/
theorem delivered_hear (hg : w.Generations) (hf : w.Forwarding) (hl : w.link? g' = some l)
    (hs : l.step? w.clock = some (l', effects)) :
    Delivered registered w.session ((w.setLink g' l').hear g' effects).notices g
      (dues ++ (effects.filterMap (recordOf g')).flatMap (w.duesOf g)) calls := by
  rcases Link.step?_read_or_not hs with ⟨t, i, rest, hp, hc, hi, -, heq⟩ | ⟨-, hframe⟩
  · obtain ⟨-, rfl⟩ := Prod.mk.inj heq
    have hrunning := hg.running (by simp [hg.held_of_open hl hc])
    rw [filterMap_recordOf_read (Link.talkStep_of_step? hp hc hs) List.mem_cons_self,
      List.flatMap_singleton]
    rcases (w.setLink g' l').hear_cases g' _ with ⟨hended, -⟩ | ⟨-, hw⟩
    · cases hended.symm.trans hrunning
    · rw [hw]
      exact delivered_read hd hg hf hl hp hc hi
  · have hdues : (effects.filterMap (recordOf g')).flatMap (w.duesOf g) = [] := by
      refine List.flatMap_eq_nil_iff.2 fun e he => ?_
      obtain ⟨effect, heffect, hrecord⟩ := List.mem_filterMap.1 he
      rcases eq_wrote_or_armed_of_recordOf (hframe effect heffect) hrecord with
        ⟨_, _, rfl⟩ | ⟨_, rfl⟩ <;> rfl
    rw [hdues, List.append_nil]
    rcases (w.setLink g' l').hear_cases g' effects with ⟨-, hw⟩ | ⟨-, hw⟩ <;> rw [hw]
    · exact hd
    · exact delivered_of_isOfFrame hd hframe

end Hear

/-! ### Acts -/

/-- An act records `es`, and what that gives cause for and what is called go into the account of
each connection. Only a connection that is held reads, and handlers are called only while one is
held. -/
structure Records (registered : String → List H) (w w' : World H) (es : List (Event H)) : Prop where
  history : w'.history = w.history ++ es
  delivered : ∀ g dues calls, Delivered registered w.session w.notices g dues calls →
    Delivered registered w'.session w'.notices g (dues ++ es.flatMap (w.duesOf g))
      (calls ++ es.filterMap (w.callOn? g))
  held_of_read : ∀ g i, .read g i ∈ es → w.session.held = some g
  held_of_call : ∀ e ∈ es, e.isCall = true → ∃ g, w.session.held = some g

/-- What callers, the transport and the clock do gives cause for nothing. -/
theorem records_outside {es : List (Event H)} (hs : w.SameInside w')
    (hhistory : w'.history = w.history ++ es) (hown : ∀ e ∈ es, e.isOwn = false) :
    Records registered w w' es := by
  obtain ⟨es', hhistory', hquiet⟩ := hs.history
  obtain rfl := List.append_cancel_left (hhistory'.symm.trans hhistory)
  have hno : ∀ e ∈ es', e.isCall = false ∧ ∀ g, w.duesOf g e = [] := by
    intro e he
    have hown := hown e he
    have hquiet := hquiet e he
    cases e with
    | accepted => exact ⟨rfl, fun _ => rfl⟩
    | refused => exact ⟨rfl, fun _ => rfl⟩
    | armed => exact ⟨rfl, fun _ => rfl⟩
    | wrote => cases hquiet
    | read => cases hquiet
    | _ => cases hown
  refine ⟨hhistory, fun g dues calls hd => ?_, fun g i hmem => (hquiet _ hmem).elim,
    fun e he hcall => ?_⟩
  · rw [List.flatMap_eq_nil_iff.2 fun e he => (hno e he).2 g,
      filterMap_callOn?_of_no_call fun e he => (hno e he).1, List.append_nil, List.append_nil,
      hs.session, hs.notices]
    exact hd
  · rw [(hno e he).1] at hcall
    cases hcall

theorem records_step {key : String} (hg : w.Generations) (hx : w.Exchange key)
    (hknown : w.stage ≠ .ended → ∀ name, w.session.handlersOf name <+: registered name)
    (hs : w.Step w') : ∃ es, Records registered w w' es := by
  obtain ⟨o, hturn, htook⟩ := hs.turn hg hx
  refine ⟨o.events, htook.history, fun g dues calls hd => ?_, fun g i hmem => ?_, fun e he =>
    hturn.held_of_call he⟩
  · have hdues : o.events.flatMap (w.duesOf g) = [] :=
      List.flatMap_eq_nil_iff.2 fun e he => w.duesOf_of_isOwn g (hturn.isOwn e he)
    rw [hdues, List.append_nil, htook.notices]
    refine (hturn.delivered hg (hknown hs.stage_ne_ended) hd).mono (fun h => ?_) (fun _ => rfl)
      (fun name => ?_) (Nat.le_of_eq htook.session.generation.symm)
    · exact htook.session.held ▸ h
    · exact ⟨[], by rw [htook.session.handlersOf, List.append_nil]⟩
  · cases hturn.isOwn _ hmem

theorem records_hear (hg : w.Generations) (hf : w.Forwarding) {g : Nat} {l l' : SessionLink H}
    {effects : List (Connection.Effect (Reply H) String)} (hl : w.link? g = some l)
    (hs : l.step? w.clock = some (l', effects)) :
    ∃ es, Records registered w ((w.setLink g l').hear g effects) es := by
  have hsession : ((w.setLink g l').hear g effects).session = w.session := by
    rcases (w.setLink g l').hear_cases g effects with ⟨-, hw⟩ | ⟨-, hw⟩ <;> rw [hw] <;> rfl
  refine ⟨effects.filterMap (recordOf g), (w.setLink g l').history_hear g effects,
    fun g' dues calls hd => ?_, fun g' i hmem => ?_, fun e he hcall => ?_⟩
  · have hno : (effects.filterMap (recordOf g)).filterMap (w.callOn? g') = [] := by
      refine filterMap_callOn?_of_no_call fun e he => ?_
      rcases mem_filterMap_recordOf he with ⟨_, _, rfl⟩ | ⟨_, rfl⟩ | ⟨_, rfl⟩ <;> rfl
    rw [hsession, hno, List.append_nil]
    exact delivered_hear hd hg hf hl hs
  · obtain ⟨effect, heffect, hrecord⟩ := List.mem_filterMap.1 hmem
    cases effect <;> simp only [recordOf, Option.some.injEq, reduceCtorEq] at hrecord
    cases hrecord
    obtain ⟨t, -, -, hc, -⟩ := Link.step?_of_read hs heffect
    exact hg.held_of_open hl hc
  · rcases mem_filterMap_recordOf he with ⟨_, _, rfl⟩ | ⟨_, rfl⟩ | ⟨_, rfl⟩ <;> cases hcall

theorem records_act {key : String} (hg : w.Generations) (hx : w.Exchange key) (hf : w.Forwarding)
    (hknown : w.stage ≠ .ended → ∀ name, w.session.handlersOf name <+: registered name)
    (a : Act H) : ∃ es, Records registered w (w.act a) es := by
  rcases w.aside_or_step a with haside | ⟨-, hstep⟩
  · obtain ⟨es, hown, hhistory⟩ := haside.history
    have hsame : ∀ w', w'.history = w.history ++ es → (∃ es', Records registered w w' es') →
        Records registered w w' es := by
      rintro w' h ⟨es', hrecords⟩
      obtain rfl := List.append_cancel_left (hrecords.history.symm.trans h)
      exact hrecords
    refine ⟨es, act_cases (P := fun w' => w'.history = w.history ++ es → Records registered w w' es)
      w a (fun w' hs h => ?_) (fun w' hs h => ?_) (fun g l l' effects hl hs h => ?_) hhistory⟩
    · exact records_outside hs h hown
    · exact hsame w' h (records_step hg hx hknown hs)
    · exact hsame _ h (records_hear hg hf hl hs)
  · exact records_step hg hx hknown hstep

/-! ### Runs -/

section Runs

variable (setup : Setup H) (acts : List (Act H))

/-- What the next act of a run records. -/
theorem records_of_act (a : Act H) : ∃ es,
    Records (registrations setup acts) (run setup acts) ((run setup acts).act a) es := by
  refine records_act (generations_run setup acts) (exchange_run setup acts)
    (forwarding_run setup acts) (fun hstage name => ?_) a
  rw [← handlersOf_run setup acts hstage name]
  exact List.prefix_append _ _

/-- **In every run what is due on behalf of a connection is served in its order**, as far as the
session comes before it discards the connection. -/
theorem delivered_run (g : Nat) :
    Delivered (registrations setup acts) (run setup acts).session (run setup acts).notices g
      (duesFor setup acts g) (callsFor setup acts g) := by
  induction acts using List.reverseRecOn with
  | nil => exact ⟨⟨[], .none [], fun h => ⟨rfl, by simp⟩⟩, fun _ => ⟨rfl, rfl⟩⟩
  | append_singleton acts a ih =>
    obtain ⟨es, hes⟩ := records_of_act setup acts a
    rw [duesFor_concat hes.history, callsFor_concat hes.history, run_concat]
    refine (hes.delivered g _ _ ih).registered_mono fun name => ?_
    rw [registrations_append]
    exact List.prefix_append _ _

/-- **What is due is served once the session has taken all that waits for it**, unless it gives the
connection up before. -/
theorem served_of_steps (g : Nat) (hheld : (run setup acts).session.held = some g) :
    ∃ n ≤ (run setup acts).backlog,
      (run setup (acts ++ List.replicate n .step)).session.held ≠ some g ∨
        Served (registrations setup (acts ++ List.replicate n .step)) (duesFor setup acts g)
          (callsFor setup (acts ++ List.replicate n .step) g) [] := by
  -- Each step takes one thing from the channels.
  generalize hn : (run setup acts).backlog = n
  induction n generalizing acts with
  | zero =>
    obtain ⟨rest, hserved, hwaits⟩ := (delivered_run setup acts g).served
    have hempty : (run setup acts).notices = [] := by
      rw [backlog] at hn
      exact List.eq_nil_of_length_eq_zero (by omega)
    obtain rfl : rest = [] := by
      have hcauses := (hwaits hheld).notices
      rw [hempty] at hcauses
      exact List.map_eq_nil_iff.1 hcauses.symm
    refine ⟨0, Nat.le_refl _, .inr ?_⟩
    rw [List.replicate_zero, List.append_nil]
    exact hserved
  | succ n ih =>
    by_cases hkept : (run setup (acts ++ [.step])).session.held = some g
    · have hless := backlog_step setup acts hheld hkept (by omega)
      obtain ⟨m, hm, h⟩ := ih (acts ++ [.step]) hkept (by omega)
      rw [duesFor_step, ← List.append_cons] at h
      exact ⟨m + 1, by omega, h⟩
    · exact ⟨1, by omega, .inl hkept⟩

/-- Each entry of the annals of a run is what an act records in a run that leads up to it. -/
theorem mem_runAnnals {p : World H × Event H} (hp : p ∈ runAnnals setup acts) :
    ∃ before a es, before ++ [a] <+: acts ∧ p.1 = run setup before ∧ p.2 ∈ es ∧
      Records (registrations setup before) (run setup before) ((run setup before).act a) es := by
  induction acts using List.reverseRecOn with
  | nil => cases hp
  | append_singleton acts a ih =>
    obtain ⟨es, hes⟩ := records_of_act setup acts a
    rw [runAnnals_concat hes.history] at hp
    rcases List.mem_append.1 hp with hp | hp
    · obtain ⟨before, a', es', hprefix, h⟩ := ih hp
      exact ⟨before, a', es', hprefix.trans (List.prefix_append _ _), h⟩
    · obtain ⟨e, he, rfl⟩ := List.mem_map.1 hp
      exact ⟨acts, a, es, List.prefix_refl _, rfl, he, hes⟩

/-- **Events are delivered exactly, in order and across reconnects.** All that happens stands in the
annals of a run. Frames are read on the connection that is held only, and handlers are called while
one is held only; the handlers of an event are all that were registered for its name, but for those
that the session has not yet taken. On behalf of each connection what is due is served in its order,
as far as the session comes while it holds the connection, and it comes to the end of it unless it
gives the connection up before. Frames are read in the order of their arrival, and an event is what
its frame tells. -/
theorem events_delivered :
    (run setup acts).history = (runAnnals setup acts).map Prod.snd ∧
    (∀ p ∈ runAnnals setup acts, ∃ before, before <+: acts ∧ p.1 = run setup before ∧
      (∀ g i, p.2 = .read g i → p.1.session.held = some g) ∧
      (p.2.isCall = true → ∃ g, p.1.session.held = some g) ∧
      (p.1.stage ≠ .ended → ∀ name,
        p.1.session.handlersOf name ++ waitingFor name p.1.commands =
          registrations setup before name)) ∧
    (∀ g, Delivered (registrations setup acts) (run setup acts).session (run setup acts).notices g
      (duesFor setup acts g) (callsFor setup acts g)) ∧
    (∀ g, (run setup acts).session.held = some g → ∃ n ≤ (run setup acts).backlog,
      (run setup (acts ++ List.replicate n .step)).session.held ≠ some g ∨
        Served (registrations setup (acts ++ List.replicate n .step)) (duesFor setup acts g)
          (callsFor setup (acts ++ List.replicate n .step) g) []) ∧
    (∀ g, (run setup acts).Arrived g (arrivals g acts)) ∧
    ∀ content batch, Frame.parse content = .ok (.events batch) → ∃ envelope items,
      Envelope.parse content = .ok envelope ∧ envelope.callbackId < 0 ∧
      envelope.eventList = true ∧ envelope.data = .array items ∧
      List.Forall₂ PushEvent.Tells items batch := by
  refine ⟨history_eq_annals setup acts, fun p hp => ?_, delivered_run setup acts,
    served_of_steps setup acts, arrived_run setup acts, fun content batch => Frame.tells_of_parse⟩
  obtain ⟨before, a, es, hprefix, hworld, hmem, hes⟩ := mem_runAnnals setup acts hp
  refine ⟨before, (List.prefix_append _ _).trans hprefix, hworld, fun g i hread => ?_,
    fun hcall => ?_, fun hstage name => ?_⟩
  · rw [hworld]
    exact hes.held_of_read g i (hread ▸ hmem)
  · rw [hworld]
    exact hes.held_of_call p.2 hmem hcall
  · rw [hworld] at hstage ⊢
    exact handlersOf_run setup before hstage name

end Runs

/-- A batch of one event, which names no printer. -/
def sampleBatch : String :=
  "\x7b\x22eventList\x22:true,\x22data\x22:[" ++
    "\x7b\x22event\x22:\x22temp\x22,\x22data\x22:true\x7d]\x7d"

/-- A handler is registered on the first connection, and an event comes on the second one. -/
def sampleEvents : List (Act Nat) :=
  sampleLogin ++ [.subscribe "temp" 1, .step, .linkStep 1, .arrive 1 .ended, .linkStep 1, .step,
    .step, .offer 3 (.ok ()), .linkStep 3, .linkStep 3, .arrive 3 (.text sampleBatch), .linkStep 3,
    .step, .step]

/-- The handler is called for the event of the second connection, before the login on it. -/
theorem sampleEvents_delivered :
    duesFor sampleSetup sampleEvents 3 = [.event ⟨"temp", "", .bool true⟩ [1]] ∧
    callsFor sampleSetup sampleEvents 3 = [.notified 1 ⟨"temp", "", .bool true⟩] ∧
    Served (registrations sampleSetup sampleEvents) (duesFor sampleSetup sampleEvents 3)
      (callsFor sampleSetup sampleEvents 3) [] ∧
    ∃ envelope items, Envelope.parse sampleBatch = .ok envelope ∧
      envelope.data = .array items ∧
      List.Forall₂ PushEvent.Tells items [⟨"temp", "", .bool true⟩] := by
  have hdues : duesFor sampleSetup sampleEvents 3 = [.event ⟨"temp", "", .bool true⟩ [1]] := by
    decide +kernel
  have hcalls : callsFor sampleSetup sampleEvents 3 = [.notified 1 ⟨"temp", "", .bool true⟩] := by
    decide +kernel
  have hparse : Frame.parse sampleBatch = .ok (.events [⟨"temp", "", .bool true⟩]) := by
    decide +kernel
  have hheld : (run sampleSetup sampleEvents).session.held = some 3 := by decide +kernel
  have hbacklog : (run sampleSetup sampleEvents).backlog = 0 := by decide +kernel
  obtain ⟨-, -, -, hserved, -, htells⟩ := events_delivered sampleSetup sampleEvents
  obtain ⟨n, hn, h⟩ := hserved 3 hheld
  obtain rfl : n = 0 := by omega
  rw [List.replicate_zero, List.append_nil] at h
  obtain ⟨envelope, items, henvelope, -, -, hdata, hitems⟩ := htells _ _ hparse
  exact ⟨hdues, hcalls, h.resolve_left (not_not_intro hheld), envelope, items, henvelope, hdata,
    hitems⟩

end World

end PrintClient.Session
