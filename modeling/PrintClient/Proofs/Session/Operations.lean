import PrintClient.Proofs.Session.History

/-!
# What the operations of a session change

For each operation of a world one equation that says all that it changes: the session, the links and
what is recorded. Later modules use these equations and do not open the operations again.

* `updateLink_eq`, `discard_eq`: one link is changed, the others stay;
* `fail_eq`, `stop_eq`: the session and the record after a teardown and after the end;
* `advance_cases`: a request is handed over, or nothing happens;
* `obey_subscribe_eq`: what the first handler of an event means for a connection;
* `Step`, `SameInside`, `act_cases`: what can come of an act;
* `run_induction`: what holds at the start and is kept by every act of a run holds of every run.
-/

namespace PrintClient

/-- The link with its connection closed by its owner. -/
def Link.close {R E : Type} (l : Link R E) : Link R E := { l with connection := l.connection.close }

namespace Session.World

variable {H : Type} (w : World H)

/-! ### Records and links -/

@[simp] theorem history_note (es : List (Event H)) : (w.note es).history = w.history ++ es := by
  simp [history, note, Function.comp_def]

theorem note_nil : w.note [] = w := by
  simp [note]

theorem lookup_storeLink (g g' : Nat) (l : SessionLink H) (links : List (Nat × SessionLink H)) :
    (storeLink g l links).lookup g' = if g' = g then some l else links.lookup g' := by
  induction links with
  | nil => by_cases h : g' = g <;> simp [storeLink, List.lookup_cons, h, beq_false_of_ne]
  | cons p links ih =>
    obtain ⟨k, v⟩ := p
    by_cases hk : k = g
    · subst hk
      by_cases h : g' = k <;> simp [storeLink, List.lookup_cons, h, beq_false_of_ne]
    · simp only [storeLink, if_neg hk]
      by_cases h : g' = k
      · subst h
        simp [hk]
      · simp [List.lookup_cons, beq_false_of_ne h, ih]

theorem link?_setLink (g g' : Nat) (l : SessionLink H) :
    (w.setLink g l).link? g' = if g' = g then some l else w.link? g' :=
  lookup_storeLink g g' l w.links

/-- One link is changed. -/
theorem updateLink_eq (g : Nat) (f : SessionLink H → SessionLink H) :
    ∃ links, (∀ g', links.lookup g' = if g' = g then (w.link? g).map f else w.link? g') ∧
      w.updateLink g f = { w with links } := by
  unfold updateLink
  cases h : w.link? g with
  | none =>
    refine ⟨w.links, fun g' => ?_, rfl⟩
    by_cases hg : g' = g
    · subst hg
      rw [if_pos rfl]
      exact h
    · rw [if_neg hg]
      rfl
  | some l => exact ⟨storeLink g (f l) w.links, fun g' => lookup_storeLink g g' (f l) w.links, rfl⟩

/-! ### Teardown -/

/-- The connection that was held is closed, and its generation is over. -/
theorem discard_eq :
    ∃ links : List (Nat × SessionLink H), (∀ g, links.lookup g = if w.session.held = some g
        then (w.link? g).map Link.close else w.link? g) ∧
      w.discard = { w with
        links
        session := { w.session with held := none, generation := w.session.generation + 1 } } := by
  cases hh : w.session.held with
  | none => exact ⟨w.links, fun g => by simp [link?], by simp [discard, hh]⟩
  | some g =>
    obtain ⟨links, hl, hw⟩ := w.updateLink_eq g Link.close
    have hd : w.updateConnection g Connection.close = { w with links } := hw
    refine ⟨links, fun g' => ?_, by simp [discard, hh, hd]⟩
    rw [hl g']
    by_cases h : g' = g
    · simp [h]
    · have : ¬ g = g' := fun e => h e.symm
      simp [h, this]

end Session.World

namespace Session

variable {H : Type}

/-- A session after a teardown at the time `now`. -/
def tornDown (s : Session H) (now : Nat) : Session H :=
  { s with
    held := none
    generation := s.generation + 1
    inFlight := none
    queue := callerEntries s.queue
    state := .disconnected
    failures := s.failures + 1
    reconnectAt := some (now + retryDelay s.settings.backoff s.failures) }

/-- What is recorded of a teardown once the request on its way has been given up. -/
def hangUp (s : Session H) (failure : Failure) : List (Event H) :=
  .entered .disconnected :: (s.onDisconnect.map fun h => .disconnected h failure) ++
    [.putOff (retryDelay s.settings.backoff s.failures)]

/-- What is recorded of a teardown. -/
def teardown (s : Session H) (failure : Failure) : List (Event H) :=
  (callers s.inFlight.toList).map .lost ++ s.hangUp failure

section Teardown

variable (s : Session H) (failure : Failure)

theorem isQuiet_hangUp : ∀ e ∈ s.hangUp failure, e.IsQuiet := by
  simp only [hangUp, List.cons_append, List.forall_mem_cons, List.forall_mem_append,
    List.forall_mem_map]
  simp

theorem taken_teardown : taken (s.teardown failure) = [] := by
  rw [teardown, taken_append, taken_map_lost, List.nil_append, hangUp, List.cons_append]
  exact List.filterMap_eq_nil_iff.2 (by
    simp only [List.forall_mem_cons, List.forall_mem_append, List.forall_mem_map]
    simp [Event.taken?])

theorem endings_teardown : endings (s.teardown failure) = callers s.inFlight.toList := by
  rw [teardown, endings_append, endings_map_lost, endings_of_quiet (s.isQuiet_hangUp failure),
    List.append_nil]

theorem writesOn_teardown (g : Nat) : writesOn g (s.teardown failure) = [] := by
  rw [teardown, writesOn_append, writesOn_map_lost, writesOn_of_quiet (s.isQuiet_hangUp failure)]
  rfl

theorem callerWrites_teardown : callerWrites (s.teardown failure) = [] := by
  rw [teardown, callerWrites_append, callerWrites_map_lost,
    callerWrites_of_quiet (s.isQuiet_hangUp failure)]
  rfl

end Teardown

/-- What is recorded of the end, `commands` being left in the channel. -/
def farewell (s : Session H) (commands : List (Command H)) : List (Event H) :=
  (callers s.inFlight.toList ++ callers s.queue).map .lost ++
    (.entered .disconnected :: (commands.filterMap World.Command.handler?).map .lost)

theorem writesOn_farewell (s : Session H) (commands : List (Command H)) (g : Nat) :
    writesOn g (s.farewell commands) = [] := by
  rw [farewell, writesOn_append, writesOn_map_lost, List.nil_append]
  exact writesOn_map_lost (commands.filterMap World.Command.handler?) g

/-- A session after its end. -/
def ended (s : Session H) : Session H :=
  { s with
    held := none
    generation := s.generation + 1
    inFlight := none
    queue := []
    reconnectAt := none
    state := .disconnected }

/-- A session that was set up has done nothing yet. -/
theorem Setup.session_eq (setup : Setup H) : ∃ subscriptions, setup.session =
    { new setup.endpoint setup.settings with
      subscriptions, onDisconnect := setup.onDisconnect, onLogin := setup.onLogin } := by
  -- Only the list of subscriptions grows, whatever the session it is folded into.
  suffices h : ∀ (registered : List (String × H)) (s : Session H), ∃ subscriptions,
      registered.foldl (fun s p => s.subscribe p.1 p.2) s = { s with subscriptions } by
    obtain ⟨subscriptions, hs⟩ := h setup.subscriptions (new setup.endpoint setup.settings)
    exact ⟨subscriptions, by rw [Setup.session, hs]⟩
  intro registered
  induction registered with
  | nil => exact fun s => ⟨s.subscriptions, rfl⟩
  | cons p registered ih =>
    intro s
    obtain ⟨subscriptions, hs⟩ := ih (s.subscribe p.1 p.2)
    exact ⟨subscriptions, hs⟩

namespace World

variable (w : World H)

/-- A teardown in one piece. -/
theorem fail_eq (failure : Failure) :
    ∃ links : List (Nat × SessionLink H), (∀ g, links.lookup g = if w.session.held = some g
        then (w.link? g).map Link.close else w.link? g) ∧
      w.fail failure =
        { w with links, session := w.session.tornDown w.clock }.note
          (w.session.teardown failure) := by
  obtain ⟨links, hl, hw⟩ := w.discard_eq
  refine ⟨links, hl, ?_⟩
  simp [fail, hw, loseInFlight, withdrawLogin, enter, putOff, note, tornDown, teardown, hangUp,
    callerEntries]

/-- The end in one piece. -/
theorem stop_eq :
    ∃ links : List (Nat × SessionLink H), (∀ g, links.lookup g = if w.session.held = some g
        then (w.link? g).map Link.close else w.link? g) ∧
      w.stop =
        { w with
          links
          session := w.session.ended
          stage := .ended
          commands := []
          notices := [] }.note (w.session.farewell w.commands) := by
  obtain ⟨links, hl, hw⟩ := w.discard_eq
  refine ⟨links, hl, ?_⟩
  simp [stop, hw, loseInFlight, enter, note, Session.ended, farewell]

/-! ### Attempts and logins -/

theorem connect_eq :
    w.connect = { w with
      session := { w.session with
        generation := w.session.generation + 1
        held := some (w.session.generation + 1)
        state := .connecting }
      links := w.links ++ [(w.session.generation + 1, Link.new (freshConnection w.session))] }.note
        [.entered .connecting, .attempted (w.session.generation + 1)] := by
  simp [connect, enter, note]

theorem greet_eq :
    w.greet = ({ w with session := { w.session with
      state := .awaitingLogin
      queue := w.session.loginEntry :: w.session.queue } }.note
        [.entered .awaitingLogin]).advance := rfl

section Complete

variable {w : World H} {q : Queued H} (hi : w.session.inFlight = some q) (data : Json)

include hi

/-- The login was accepted. -/
theorem complete_of_accepted (hl : q.reply = .login)
    (hok : checkOk q.request.action data = .ok ()) :
    w.complete data =
      ({ w with session := { w.session with
        inFlight := none
        failures := 0
        state := .connected } }.note
          (.entered .connected :: w.session.onLogin.map .loggedIn)).advance := by
  simp [complete, hi, hl, hok, loggedIn, enter, note]

/-- The login was refused, or its answer breaks the protocol. -/
theorem complete_of_refused (hl : q.reply = .login) {failure : Failure}
    (herr : checkOk q.request.action data = .error failure) :
    w.complete data = { w with session := { w.session with inFlight := none } }.fail failure := by
  simp [complete, hi, hl, herr]

/-- A caller's request was answered. -/
theorem complete_of_caller {handler : H} (hc : q.reply = .caller handler) :
    w.complete data =
      ({ w with session := { w.session with inFlight := none } }.note
        [.replied handler data]).advance := by
  simp [complete, hi, hc]

end Complete

/-! ### Requests on their way -/

/-- A request is handed to the connection that is held, or nothing happens. -/
theorem advance_cases :
    w.advance = w ∨ ∃ g l q rest, w.session.inFlight = none ∧ w.session.held = some g ∧
      w.session.queue = q :: rest ∧ w.session.maySend q = true ∧ w.link? g = some l ∧
      w.advance = { w.setLink g { l with connection := { l.connection with
          busy := true, inbox := l.connection.inbox ++ [.send q.request q.reply] } } with
        session := { w.session with queue := rest, inFlight := some q } } := by
  cases hi : w.session.inFlight with
  | some q => exact .inl (by simp [advance, hi])
  | none =>
    cases hh : w.session.held with
    | none => exact .inl (by simp [advance, hi, hh])
    | some g =>
      cases hq : w.session.queue with
      | nil => exact .inl (by simp [advance, hi, hh, hq])
      | cons q rest =>
        cases hm : w.session.maySend q with
        | false => exact .inl (by simp [advance, hi, hh, hq, hm])
        | true =>
          cases hl : w.link? g with
          | none => exact .inl (by simp [advance, hi, hh, hq, hm, hl])
          | some l =>
            cases hs : l.connection.send q.request q.reply with
            | error failure => exact .inl (by simp [advance, hi, hh, hq, hm, hl, hs])
            | ok c =>
              have hc := Connection.send_eq_ok hs
              subst hc
              exact .inr ⟨g, l, q, rest, rfl, rfl, rfl, hm, hl,
                by simp [advance, hi, hh, hq, hm, hl, hs]⟩

theorem advance_of_queue_eq_nil {w : World H} (h : w.session.queue = []) : w.advance = w := by
  unfold advance
  split <;> simp_all

theorem advance_of_held_eq_none {w : World H} (h : w.session.held = none) : w.advance = w := by
  unfold advance
  split <;> simp_all

/-- A free connection takes the request at the head of the queue. -/
theorem advance_of_isFree {w : World H} {g : Nat} {l : SessionLink H}
    {t : Connection.Talk (Reply H) String} {q : Queued H} {rest : List (Queued H)}
    (hi : w.session.inFlight = none) (hh : w.session.held = some g)
    (hq : w.session.queue = q :: rest) (hm : w.session.maySend q = true) (hl : w.link? g = some l)
    (hf : l.connection.IsFree t) :
    w.advance = { w.setLink g { l with connection := { l.connection with
        busy := true, inbox := l.connection.inbox ++ [.send q.request q.reply] } } with
      session := { w.session with queue := rest, inFlight := some q } } := by
  simp [advance, hi, hh, hq, hm, hl, hf.send]

/-! ### Commands -/

/-- A handler of an event is registered with the session, and with its connection when it is the
first one. -/
theorem obey_subscribe_eq (event : String) (handler : H) :
    ∃ links : List (Nat × SessionLink H),
      (∀ g, links.lookup g = w.link? g ∨ links.lookup g = (w.link? g).map fun l =>
        { l with connection := l.connection.subscribe event event }) ∧
      w.obey (.subscribe event handler) =
        { w with links, session := w.session.subscribe event handler } := by
  simp only [obey]
  split
  · split
    · rename_i g _ _
      obtain ⟨links, hl, hw⟩ :=
        updateLink_eq { w with session := w.session.subscribe event handler } g
          fun l => { l with connection := l.connection.subscribe event event }
      refine ⟨links, fun g' => ?_, hw⟩
      rw [hl g']
      split
      · rename_i hg
        rw [hg]
        exact .inr rfl
      · exact .inl rfl
    · exact ⟨w.links, fun _ => .inl rfl, rfl⟩
  · exact ⟨w.links, fun _ => .inl rfl, rfl⟩

/-! ### Steps of the session -/

/-- What the session can do next. -/
inductive Step (w : World H) : World H → Prop
  | start (stage : w.stage = .starting) : Step w { w with stage := .running }.connect
  | stop (stage : w.stage = .running)
      (wish : w.cancelled = true ∨ w.commands = [] ∧ w.handles = 0) : Step w w.stop
  | obey {command : Command H} {rest : List (Command H)} (stage : w.stage = .running)
      (commands : w.commands = command :: rest) : Step w ({ w with commands := rest }.obey command)
  | heed {notice : Notice} {rest : List (Nat × Notice)} (stage : w.stage = .running)
      (commands : w.commands = []) (notices : w.notices = (w.session.generation, notice) :: rest) :
      Step w ({ w with notices := rest }.heed notice)
  /-- A notice of a connection that is no longer held is passed over. -/
  | skip {g : Nat} {notice : Notice} {rest : List (Nat × Notice)} (stage : w.stage = .running)
      (commands : w.commands = []) (notices : w.notices = (g, notice) :: rest)
      (stale : g ≠ w.session.generation) :
      Step w { w with notices := rest }
  | retry (stage : w.stage = .running) (commands : w.commands = []) (notices : w.notices = [])
      (due : w.isDue = true) :
      Step w { w with session := { w.session with reconnectAt := none } }.connect

theorem step_of_step? {w w' : World H} (h : w.step? = some w') : w.Step w' := by
  unfold step? at h
  split at h
  · rename_i hs
    cases h
    exact .start hs
  · rename_i hs
    unfold runStep? at h
    split at h
    · rename_i hc
      cases h
      exact .stop hs (.inl hc)
    · split at h
      · rename_i hc
        cases h
        exact .obey hs hc
      · rename_i hc
        split at h
        · rename_i hh
          cases h
          exact .stop hs (.inr ⟨hc, hh⟩)
        · split at h
          · rename_i g notice rest hn
            by_cases hg : g = w.session.generation
            · subst hg
              simp only [if_true, Option.some.injEq] at h
              subst h
              exact .heed hs hc hn
            · simp only [hg, if_false, Option.some.injEq] at h
              subst h
              exact .skip hs hc hn hg
          · rename_i hn
            split at h
            · rename_i hd
              cases h
              exact .retry hs hc hn hd
            · cases h
  · cases h

/-- A session that has ended does nothing. -/
theorem Step.stage_ne_ended {w w' : World H} (h : w.Step w') : w.stage ≠ .ended := by
  cases h with
  | start stage => simp [stage]
  | stop stage => simp [stage]
  | obey stage => simp [stage]
  | heed stage => simp [stage]
  | skip stage => simp [stage]
  | retry stage => simp [stage]

/-- What a connection does is recorded as frames only, and when the transport has taken them. -/
theorem mem_filterMap_recordOf {g : Nat} {effects : List (Connection.Effect (Reply H) String)}
    {e : Event H} (he : e ∈ effects.filterMap (recordOf g)) :
    (∃ id q, e = .wrote g id q) ∨ (∃ id, e = .armed g id) ∨ ∃ i, e = .read g i := by
  obtain ⟨effect, -, hr⟩ := List.mem_filterMap.1 he
  cases effect <;> simp only [recordOf, Option.some.injEq, reduceCtorEq] at hr <;> subst hr
  · exact .inl ⟨_, _, rfl⟩
  · exact .inr (.inl ⟨_, rfl⟩)
  · exact .inr (.inr ⟨_, rfl⟩)

theorem filterMap_record {α : Type} {f : Event H → Option α} {g : Nat}
    (hw : ∀ id q, f (.wrote g id q) = none) (ha : ∀ id, f (.armed g id) = none)
    (hr : ∀ i, f (.read g i) = none) (effects : List (Connection.Effect (Reply H) String)) :
    (effects.filterMap (recordOf g)).filterMap f = [] := by
  refine List.filterMap_eq_nil_iff.2 fun e he => ?_
  rcases mem_filterMap_recordOf he with ⟨id, q, rfl⟩ | ⟨id, rfl⟩ | ⟨i, rfl⟩
  · exact hw id q
  · exact ha id
  · exact hr i

/-- What a connection does is recorded, and its notices are heard until the session has ended. -/
theorem hear_cases (g : Nat) (effects : List (Connection.Effect (Reply H) String)) :
    (w.stage = .ended ∧ w.hear g effects = w.note (effects.filterMap (recordOf g))) ∨
      (w.stage ≠ .ended ∧ w.hear g effects =
        { w with notices := w.notices ++ (effects.filterMap noticeOf).map fun n => (g, n) }.note
          (effects.filterMap (recordOf g))) := by
  simp only [hear]
  split
  · rename_i hs
    exact .inl ⟨hs, rfl⟩
  · rename_i hs
    exact .inr ⟨hs, rfl⟩

/-- The session hears nothing of what nobody is told of. -/
theorem hear_of_silent {g : Nat} {effects : List (Connection.Effect (Reply H) String)}
    (h : ∀ e ∈ effects, e.IsSilent) :
    w.hear g effects = w.note (effects.filterMap (recordOf g)) := by
  have hnotices : effects.filterMap noticeOf = [] := by
    refine List.filterMap_eq_nil_iff.2 fun e he => ?_
    have hsilent := h e he
    cases e <;> first | rfl | exact hsilent.elim
  rcases w.hear_cases g effects with ⟨-, hw⟩ | ⟨-, hw⟩ <;> rw [hw]
  rw [hnotices, List.map_nil, List.append_nil]

theorem isQuiet_record_of_silent {g : Nat} {effects : List (Connection.Effect (Reply H) String)}
    (h : ∀ e ∈ effects, e.IsSilent) : ∀ e ∈ effects.filterMap (recordOf g), e.IsQuiet := by
  intro e he
  obtain ⟨effect, heffect, hr⟩ := List.mem_filterMap.1 he
  have hsilent := h effect heffect
  cases effect with
  | armed =>
    obtain rfl := Option.some.inj hr
    trivial
  | dropped => cases hr
  | _ => exact hsilent.elim

theorem history_hear (g : Nat) (effects : List (Connection.Effect (Reply H) String)) :
    (w.hear g effects).history = w.history ++ effects.filterMap (recordOf g) := by
  rcases w.hear_cases g effects with ⟨-, hw⟩ | ⟨-, hw⟩ <;> rw [hw, history_note]
  rfl

theorem link?_hear (g g' : Nat) (effects : List (Connection.Effect (Reply H) String)) :
    (w.hear g effects).link? g' = w.link? g' := by
  rcases w.hear_cases g effects with ⟨-, hw⟩ | ⟨-, hw⟩ <;> rw [hw] <;> rfl

/-- The world after a step of one of its connections. -/
theorem linkStep?_eq_some {w w' : World H} {g : Nat} (h : w.linkStep? g = some w') :
    ∃ l l' effects, w.link? g = some l ∧ l.step? w.clock = some (l', effects) ∧
      w' = (w.setLink g l').hear g effects := by
  unfold linkStep? at h
  cases hl : w.link? g with
  | none => simp [hl] at h
  | some l =>
    rw [hl] at h
    obtain ⟨⟨l', effects⟩, hs, rfl⟩ := Option.map_eq_some_iff.1 h
    exact ⟨l, l', effects, rfl, hs, rfl⟩

/-! ### Runs -/

/-- What callers, the transport and the clock do leaves the session, its notices and its connections
as they are. -/
structure SameInside (w w' : World H) : Prop where
  session : w'.session = w.session
  notices : w'.notices = w.notices
  stage : w'.stage = w.stage
  connections : ∀ g, (w'.link? g).map Link.connection = (w.link? g).map Link.connection
  history : ∃ es, w'.history = w.history ++ es ∧ ∀ e ∈ es, e.IsQuiet

theorem sameInside_note (w : World H) {es : List (Event H)} (hes : ∀ e ∈ es, e.IsQuiet) :
    w.SameInside (w.note es) :=
  ⟨rfl, rfl, rfl, fun _ => rfl, es, history_note w es, hes⟩

/-- A session takes commands until it has ended. -/
theorem command_cases (w : World H) (c : Command H) :
    (w.stage = .ended ∧ w.command c = .error .sessionClosed) ∨
      (w.stage ≠ .ended ∧ w.command c = .ok { w with commands := w.commands ++ [c] }) := by
  unfold command
  split
  · rename_i hs
    exact .inl ⟨hs, rfl⟩
  · rename_i hs
    exact .inr ⟨hs, rfl⟩

theorem sameInside_tryCommand (w : World H) (c : Command H) (handler : H) :
    w.SameInside (w.tryCommand c handler) := by
  rcases w.command_cases c with ⟨-, hc⟩ | ⟨-, hc⟩ <;> rw [tryCommand, hc]
  · exact w.sameInside_note (by simp)
  · exact ⟨rfl, rfl, rfl, fun _ => rfl, [], (List.append_nil _).symm, by simp⟩

theorem sameInside_submit (w : World H) (request : Request) (handler : H) :
    w.SameInside (w.submit request handler) := by
  rcases w.command_cases (.submit request handler) with ⟨-, hc⟩ | ⟨-, hc⟩ <;> rw [submit, hc]
  · exact w.sameInside_note (by simp)
  · exact ⟨rfl, rfl, rfl, fun _ => rfl, [.accepted request handler], history_note _ _, by simp⟩

theorem sameInside_updateLink (w : World H) (g : Nat) {f : SessionLink H → SessionLink H}
    (hf : ∀ l, (f l).connection = l.connection) : w.SameInside (w.updateLink g f) := by
  obtain ⟨links, hl, hw⟩ := w.updateLink_eq g f
  rw [hw]
  refine ⟨rfl, rfl, rfl, fun g' => ?_, [], (List.append_nil _).symm, by simp⟩
  rw [link?, hl g']
  split
  · rename_i hg
    rw [hg, Option.map_map]
    exact congrArg (fun k => (w.link? g).map k) (funext hf)
  · rfl

/-- What comes of an act: nothing inside changes, or the session does a step, or one of its
connections does. -/
theorem act_cases {P : World H → Prop} (w : World H) (a : Act H)
    (outside : ∀ w', w.SameInside w' → P w')
    (step : ∀ w', w.Step w' → P w')
    (linkStep : ∀ g l l' effects, w.link? g = some l → l.step? w.clock = some (l', effects) →
      P ((w.setLink g l').hear g effects)) : P (w.act a) := by
  have hsame : w.SameInside w :=
    ⟨rfl, rfl, rfl, fun _ => rfl, [], (List.append_nil _).symm, by simp⟩
  cases a with
  | submit request handler => exact outside _ (w.sameInside_submit request handler)
  | subscribe event handler => exact outside _ (w.sameInside_tryCommand _ handler)
  | onDisconnect handler => exact outside _ (w.sameInside_tryCommand _ handler)
  | onLogin handler => exact outside _ (w.sameInside_tryCommand _ handler)
  | shutdown => exact outside _ ⟨rfl, rfl, rfl, fun _ => rfl, hsame.history⟩
  | clone => exact outside _ ⟨rfl, rfl, rfl, fun _ => rfl, hsame.history⟩
  | drop => exact outside _ ⟨rfl, rfl, rfl, fun _ => rfl, hsame.history⟩
  | offer g outcome => exact outside _ (w.sameInside_updateLink g fun _ => rfl)
  | arrive g i => exact outside _ (w.sameInside_updateLink g fun _ => rfl)
  | breakWrites g reason => exact outside _ (w.sameInside_updateLink g fun _ => rfl)
  | stall g => exact outside _ (w.sameInside_updateLink g fun _ => rfl)
  | resume g => exact outside _ (w.sameInside_updateLink g fun _ => rfl)
  | elapse milliseconds => exact outside _ ⟨rfl, rfl, rfl, fun _ => rfl, hsame.history⟩
  | step =>
    show P (w.step?.getD w)
    cases h : w.step? with
    | none => exact outside w hsame
    | some w' => exact step w' (step_of_step? h)
  | linkStep g =>
    show P ((w.linkStep? g).getD w)
    cases h : w.linkStep? g with
    | none => exact outside w hsame
    | some w' =>
      obtain ⟨l, l', effects, hl, hs, rfl⟩ := linkStep?_eq_some h
      exact linkStep g l l' effects hl hs

theorem run_append (setup : Setup H) (acts more : List (Act H)) :
    run setup (acts ++ more) = (run setup acts).all more := by
  simp [run, all, List.foldl_append]

/-- What holds at the start and is kept by every act of a run holds of every run. -/
theorem run_induction {P : World H → Prop} {setup : Setup H} (hstart : P (start setup.session))
    (hact : ∀ acts a, P (run setup acts) → P ((run setup acts).act a)) (acts : List (Act H)) :
    P (run setup acts) := by
  -- Each act follows on a run, so the acts before it are part of what the induction carries.
  suffices h : ∀ before, P (run setup before) → P ((run setup before).all acts) from h [] hstart
  induction acts with
  | nil => exact fun before hw => hw
  | cons a acts ih =>
    intro before hw
    have hnext : run setup (before ++ [a]) = (run setup before).act a := run_append setup before [a]
    have h := ih (before ++ [a])
    rw [hnext] at h
    exact h (hact before a hw)

end World

end Session

end PrintClient
