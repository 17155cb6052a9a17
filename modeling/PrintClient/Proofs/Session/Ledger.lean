import PrintClient.Proofs.Session.Generations

/-!
# The ledger of callers' requests

A request of a caller is in the channel, outstanding (on its way or in the queue), or it has come to
its end. Each step of a world moves requests from one of these places to the next without changing
their order.

* `outstanding`, `entries`: the requests that the session has, and those in the channel;
* `Conserved`: what was taken is what has ended and then what is outstanding. `Conserved.step` says
  when it is kept;
* `Accounts`: how one step moves requests; `accounts_act` gives one for every act;
* `stage_all_of_ended`: a session that has ended stays so;
* `ledger_run`: until then what was submitted is what was taken and then what is in the channel, and
  what was taken is conserved.
-/

namespace PrintClient.Session

variable {H : Type}

/-- The requests of callers that a session has: the one on its way first, then the queue. -/
def outstanding (s : Session H) : List (Queued H) := callerEntries (s.inFlight.toList ++ s.queue)

/-- The request that a command hands in. -/
def Command.entry? : Command H → Option (Queued H)
  | .submit request handler => some ⟨request, .caller handler⟩
  | _ => none

/-- The requests in a channel. -/
def entries (commands : List (Command H)) : List (Queued H) := commands.filterMap Command.entry?

@[simp] theorem callerEntries_append (q r : List (Queued H)) :
    callerEntries (q ++ r) = callerEntries q ++ callerEntries r :=
  List.filter_append q r

@[simp] theorem callerEntries_callerEntries (q : List (Queued H)) :
    callerEntries (callerEntries q) = callerEntries q := by
  simp [callerEntries]

@[simp] theorem callerEntries_cons_login (request : Request) (q : List (Queued H)) :
    callerEntries (⟨request, .login⟩ :: q) = callerEntries q := rfl

@[simp] theorem callerEntries_cons_caller (request : Request) (handler : H) (q : List (Queued H)) :
    callerEntries (⟨request, .caller handler⟩ :: q) =
      ⟨request, .caller handler⟩ :: callerEntries q :=
  rfl

theorem callers_callerEntries (q : List (Queued H)) : callers (callerEntries q) = callers q := by
  induction q with
  | nil => rfl
  | cons e q ih =>
    obtain ⟨request, reply⟩ := e
    cases reply with
    | login => exact ih
    | caller handler =>
      rw [callerEntries_cons_caller]
      exact congrArg (handler :: ·) ih

theorem length_callers_callerEntries (q : List (Queued H)) :
    (callers (callerEntries q)).length = (callerEntries q).length := by
  induction q with
  | nil => rfl
  | cons e q ih =>
    obtain ⟨request, reply⟩ := e
    cases reply with
    | login => exact ih
    | caller handler =>
      rw [callerEntries_cons_caller]
      exact congrArg (· + 1) ih

theorem mem_callers_toList {o : Option (Queued H)} {handler : H} (h : handler ∈ callers o.toList) :
    ∃ request, o = some ⟨request, .caller handler⟩ := by
  cases o with
  | none => simp [callers] at h
  | some q =>
    obtain ⟨request, reply⟩ := q
    cases reply with
    | login => simp [callers, Queued.handler?] at h
    | caller h' =>
      rw [List.mem_singleton.1 h]
      exact ⟨request, rfl⟩

/-- What was taken is what has come to its end and then what is outstanding, and each request that
ended did so once. -/
structure Conserved (s : Session H) (l : List (Event H)) : Prop where
  taken : taken l = finished l ++ outstanding s
  endings : callers (finished l) = endings l

theorem Conserved.length_finished {s : Session H} {l : List (Event H)} (h : Conserved s l) :
    (finished l).length = (Session.endings l).length := by
  refine Nat.le_antisymm (List.length_take_le _ _) ?_
  rw [← h.endings]
  exact List.length_filterMap_le _ _

/-- `ended` comes to its end, and what is taken meanwhile goes behind what is outstanding. -/
theorem Conserved.step {s s' : Session H} {l m : List (Event H)} {ended : List (Queued H)}
    (h : Conserved s l)
    (hout : outstanding s ++ Session.taken m = ended ++ outstanding s')
    (hend : Session.endings m = callers ended)
    (hlen : (callers ended).length = ended.length) :
    finished (l ++ m) = finished l ++ ended ∧ Conserved s' (l ++ m) := by
  have htaken : Session.taken (l ++ m) = (finished l ++ ended) ++ outstanding s' := by
    rw [taken_append, h.taken, List.append_assoc, hout, List.append_assoc]
  -- As many requests end as are taken off the front of what is outstanding.
  have hfin : finished (l ++ m) = finished l ++ ended := by
    have hn : (Session.endings (l ++ m)).length = (finished l ++ ended).length := by
      rw [endings_append, hend, List.length_append, List.length_append, h.length_finished, hlen]
    rw [finished, htaken, hn, List.take_left']
    rfl
  refine ⟨hfin, by rw [hfin, htaken], ?_⟩
  rw [hfin, endings_append, hend, ← h.endings]
  exact List.filterMap_append

namespace World

/-- A request was given up because the connection that it was on was torn down. -/
structure TornDown (w w' : World H) (handler : H) : Prop where
  inFlight : ∃ request, w.session.inFlight = some ⟨request, .caller handler⟩
  before : w.session.held ≠ none
  after : w'.session.held = none
  state : w'.session.state = .disconnected

/-- How a step moves requests, `new` being what it records and `ended` the requests that come to
their end. -/
structure Accounts (w w' : World H) (new : List (Event H)) (ended : List (Queued H)) : Prop where
  history : w'.history = w.history ++ new
  outstanding : outstanding w.session ++ taken new = ended ++ outstanding w'.session
  endings : endings new = callers ended
  callers : (callers ended).length = ended.length
  commands : entries w.commands ++ submitted new = taken new ++ entries w'.commands
  lost : ∀ handler, .lost handler ∈ new → w.TornDown w' handler

variable {w w' : World H} {new : List (Event H)} {ended : List (Queued H)}

/-! ### Requests that are handed over -/

theorem history_advance (w : World H) : w.advance.history = w.history := by
  rcases w.advance_cases with h | ⟨g, l, q, rest, -, -, -, -, -, h⟩ <;> rw [h]
  rfl

theorem commands_advance (w : World H) : w.advance.commands = w.commands := by
  rcases w.advance_cases with h | ⟨g, l, q, rest, -, -, -, -, -, h⟩ <;> rw [h]
  rfl

theorem outstanding_advance (w : World H) :
    outstanding w.advance.session = outstanding w.session := by
  rcases w.advance_cases with h | ⟨g, l, q, rest, hi, -, hq, -, -, h⟩ <;> rw [h]
  simp [outstanding, hi, hq]

theorem Accounts.advance (h : w.Accounts w' new ended) : w.Accounts w'.advance new ended where
  history := by rw [history_advance, h.history]
  outstanding := by rw [outstanding_advance, h.outstanding]
  endings := h.endings
  callers := h.callers
  commands := by rw [commands_advance, h.commands]
  lost := by
    intro handler hl
    obtain ⟨hi, hb, ha, hs⟩ := h.lost handler hl
    rcases w'.advance_cases with heq | ⟨g, l, q, rest, -, hh, -⟩
    · rw [heq]
      exact ⟨hi, hb, ha, hs⟩
    -- After a teardown no connection is held, so none takes a request.
    · rw [ha] at hh
      cases hh

/-! ### Accounts of the operations -/

theorem submitted_map_lost (handlers : List H) : submitted (handlers.map .lost) = [] :=
  filterMap_map_lost (fun _ => rfl) handlers

theorem not_lost_of_quiet {es : List (Event H)} (h : ∀ e ∈ es, e.IsQuiet) (handler : H) :
    .lost handler ∉ es :=
  fun he => h _ he

/-- A step that moves no request. -/
theorem Accounts.of_quiet (hh : w'.history = w.history ++ new) (hq : ∀ e ∈ new, e.IsQuiet)
    (ht : taken new = []) (hs : submitted new = [])
    (ho : Session.outstanding w'.session = Session.outstanding w.session)
    (hc : w'.commands = w.commands) : w.Accounts w' new [] where
  history := hh
  outstanding := by rw [ht, ho, List.append_nil, List.nil_append]
  endings := endings_of_quiet hq
  callers := rfl
  commands := by rw [ht, hs, hc, List.append_nil, List.nil_append]
  lost := fun handler hl => absurd hl (not_lost_of_quiet hq handler)

theorem submitted_teardown (s : Session H) (failure : Failure) :
    submitted (s.teardown failure) = [] := by
  rw [teardown, submitted_append, submitted_map_lost, List.nil_append, hangUp, List.cons_append]
  exact List.filterMap_eq_nil_iff.2 (by
    simp only [List.forall_mem_cons, List.forall_mem_append, List.forall_mem_map]
    simp [Event.submission?])

/-- A teardown ends the request on its way; `w₁` may lack a login that was answered. -/
theorem accounts_fail {w₁ : World H} (hh : w₁.history = w.history) (hc : w₁.commands = w.commands)
    (hheld : w.session.held ≠ none) (ho : outstanding w₁.session = outstanding w.session)
    (hi : callerEntries w₁.session.inFlight.toList = callerEntries w.session.inFlight.toList)
    (failure : Failure) :
    w.Accounts (w₁.fail failure) (w₁.session.teardown failure)
      (callerEntries w.session.inFlight.toList) := by
  obtain ⟨links, -, hw⟩ := w₁.fail_eq failure
  have hcallers : callers w₁.session.inFlight.toList = callers w.session.inFlight.toList := by
    rw [← callers_callerEntries, hi, callers_callerEntries]
  rw [hw]
  refine ⟨?_, ?_, ?_, length_callers_callerEntries _, ?_, fun handler hl => ?_⟩
  · rw [history_note, ← hh]
    rfl
  · rw [taken_teardown, List.append_nil, ← ho, ← hi]
    simp [Session.outstanding, tornDown, World.note]
  · rw [endings_teardown, callers_callerEntries, hcallers]
  · rw [submitted_teardown, taken_teardown, ← hc]
    simp [World.note]
  · rw [teardown, List.mem_append, hcallers] at hl
    rcases hl with hl | hl
    · obtain ⟨handler, hmem, ⟨⟩⟩ := List.mem_map.1 hl
      exact ⟨mem_callers_toList hmem, hheld, rfl, rfl⟩
    · exact absurd hl (not_lost_of_quiet (isQuiet_hangUp _ failure) handler)

theorem accounts_connect {w₁ : World H} (hh : w₁.history = w.history)
    (hc : w₁.commands = w.commands) (ho : outstanding w₁.session = outstanding w.session) :
    w.Accounts w₁.connect [.entered .connecting, .attempted (w₁.session.generation + 1)] [] := by
  rw [connect_eq]
  refine .of_quiet ?_ (by simp) rfl rfl ho hc
  rw [history_note, ← hh]
  rfl

/-- The response to the request on its way ends it. -/
theorem accounts_complete (hh : w.session.held ≠ none) (data : Json) :
    ∃ new ended, w.Accounts (w.complete data) new ended := by
  cases hi : w.session.inFlight with
  | none =>
    rw [show w.complete data = w by simp [complete, hi]]
    exact ⟨[], [], .of_quiet (List.append_nil _).symm (by simp) rfl rfl rfl rfl⟩
  | some q =>
    obtain ⟨request, reply⟩ := q
    cases reply with
    | login =>
      have ho : outstanding { w.session with inFlight := none } = outstanding w.session := by
        simp [Session.outstanding, hi]
      have hk : callerEntries (none : Option (Queued H)).toList =
          callerEntries w.session.inFlight.toList := by
        rw [hi]
        rfl
      cases hok : checkOk request.action data with
      | ok =>
        rw [complete_of_accepted hi data rfl hok]
        refine ⟨_, [], .advance (.of_quiet (history_note _ _) (by simp) ?_ ?_ ho rfl)⟩
        · exact List.filterMap_eq_nil_iff.2 (by simp [Event.taken?])
        · exact List.filterMap_eq_nil_iff.2 (by simp [Event.submission?])
      | error failure =>
        rw [complete_of_refused hi data rfl hok]
        refine ⟨_, _, accounts_fail ?_ ?_ hh ho hk failure⟩ <;> rfl
    | caller handler =>
      rw [complete_of_caller hi data rfl]
      refine ⟨[.replied handler data], [⟨request, .caller handler⟩], .advance
        ⟨history_note _ _, ?_, rfl, rfl, (List.append_nil _).trans (List.nil_append _).symm,
          by simp⟩⟩
      show Session.outstanding w.session ++ [] = _
      simp [Session.outstanding, hi, World.note]

theorem accounts_heed (hh : w.session.held ≠ none) (notice : Notice) :
    ∃ new ended, w.Accounts (w.heed notice) new ended := by
  cases notice with
  | handshaked =>
    show ∃ new ended, w.Accounts w.greet new ended
    rw [greet_eq]
    refine ⟨[.entered .awaitingLogin], [], .advance
      (.of_quiet (history_note _ _) (by simp) rfl rfl ?_ rfl)⟩
    -- The session's own request is not one of a caller's.
    simp [Session.outstanding, loginEntry, World.note]
  | completed data => exact accounts_complete hh data
  | failed failure => exact ⟨_, _, accounts_fail rfl rfl hh rfl rfl failure⟩
  | event e =>
    refine ⟨_, [], .of_quiet (history_note _ _) (by simp) ?_ ?_ rfl rfl⟩
    · exact List.filterMap_eq_nil_iff.2 (by simp [Event.taken?])
    · exact List.filterMap_eq_nil_iff.2 (by simp [Event.submission?])

/-- A command that hands in no request. -/
theorem accounts_of_entry?_eq_none {command : Command H} {rest : List (Command H)}
    (hc : w.commands = command :: rest) (hn : command.entry? = none)
    (hh : w'.history = w.history) (hc' : w'.commands = rest)
    (ho : outstanding w'.session = outstanding w.session) : w.Accounts w' [] [] where
  history := by rw [hh, List.append_nil]
  outstanding := by rw [ho]; exact List.append_nil _
  endings := rfl
  callers := rfl
  commands := by
    rw [hc, hc', entries, List.filterMap_cons, hn]
    exact List.append_nil _
  lost := by simp

theorem accounts_obey {command : Command H} {rest : List (Command H)}
    (hc : w.commands = command :: rest) :
    ∃ new ended, w.Accounts ({ w with commands := rest }.obey command) new ended := by
  cases command with
  | submit request handler =>
    refine ⟨[.taken request handler], [], .advance ⟨history_note _ _, ?_, rfl, rfl, ?_, by simp⟩⟩
    · simp [Session.outstanding, enqueue, World.note, taken, Event.taken?, callerEntries,
        Queued.isLogin]
    · rw [hc]
      simp [entries, Command.entry?, submitted, taken, Event.taken?, Event.submission?, World.note]
  | subscribe event handler =>
    obtain ⟨links, -, hw⟩ := obey_subscribe_eq { w with commands := rest } event handler
    rw [hw]
    exact ⟨[], [], accounts_of_entry?_eq_none hc rfl rfl rfl rfl⟩
  | onDisconnect handler => exact ⟨[], [], accounts_of_entry?_eq_none hc rfl rfl rfl rfl⟩
  | onLogin handler => exact ⟨[], [], accounts_of_entry?_eq_none hc rfl rfl rfl rfl⟩

theorem accounts_step (h : w.Generations) (hs : w.Step w') (he : w'.stage ≠ .ended) :
    ∃ new ended, w.Accounts w' new ended := by
  cases hs with
  | start => exact ⟨_, [], accounts_connect rfl rfl rfl⟩
  | stop =>
    obtain ⟨links, -, hw⟩ := w.stop_eq
    exact absurd (by rw [hw]; rfl) he
  | obey _ commands => exact accounts_obey commands
  | @heed notice rest _ _ notices =>
    have hh : w.session.held ≠ none := h.held_of_notice notices
    obtain ⟨new, ended, ha⟩ := accounts_heed (w := { w with notices := rest }) hh notice
    exact ⟨new, ended, ha.history, ha.outstanding, ha.endings, ha.callers, ha.commands,
      fun handler hl => ⟨(ha.lost handler hl).inFlight, hh, (ha.lost handler hl).after,
        (ha.lost handler hl).state⟩⟩
  | skip => exact ⟨[], [], .of_quiet (List.append_nil _).symm (by simp) rfl rfl rfl rfl⟩
  | retry => exact ⟨_, [], accounts_connect rfl rfl rfl⟩

/-! ### Acts -/

/-- What callers, the transport, the clock and the connections do ends no request. -/
theorem Accounts.of_session_eq (hh : w'.history = w.history ++ new) (hs : w'.session = w.session)
    (ht : taken new = []) (he : Session.endings new = []) (hl : ∀ handler, .lost handler ∉ new)
    (hc : entries w'.commands = entries w.commands ++ submitted new) : w.Accounts w' new [] where
  history := hh
  outstanding := by rw [hs, ht]; exact List.append_nil _
  endings := he
  callers := rfl
  commands := by rw [hc, ht]; rfl
  lost := fun handler h => absurd h (hl handler)

theorem accounts_tryCommand (w : World H) (c : Command H) (handler : H) (hn : c.entry? = none) :
    ∃ new ended, w.Accounts (w.tryCommand c handler) new ended := by
  rcases w.command_cases c with ⟨-, hc⟩ | ⟨-, hc⟩ <;> rw [tryCommand, hc]
  · exact ⟨[.refused handler], [], .of_session_eq (history_note _ _) rfl rfl rfl (by simp)
      (List.append_nil _).symm⟩
  · refine ⟨[], [], .of_session_eq (List.append_nil _).symm rfl rfl rfl (by simp) ?_⟩
    simp [entries, hn, submitted]

theorem accounts_submit (w : World H) (request : Request) (handler : H) :
    ∃ new ended, w.Accounts (w.submit request handler) new ended := by
  rcases w.command_cases (.submit request handler) with ⟨-, hc⟩ | ⟨-, hc⟩ <;> rw [submit, hc]
  · exact ⟨[.refused handler], [], .of_session_eq (history_note _ _) rfl rfl rfl (by simp)
      (List.append_nil _).symm⟩
  · refine ⟨[.accepted request handler], [], .of_session_eq (history_note _ _) rfl rfl rfl
      (by simp) ?_⟩
    simp [entries, Command.entry?, submitted, Event.submission?, World.note]

theorem accounts_updateLink (w : World H) (g : Nat) (f : SessionLink H → SessionLink H) :
    ∃ new ended, w.Accounts (w.updateLink g f) new ended := by
  obtain ⟨links, -, hw⟩ := w.updateLink_eq g f
  rw [hw]
  exact ⟨[], [], .of_session_eq (List.append_nil _).symm rfl rfl rfl (by simp)
    (List.append_nil _).symm⟩

theorem accounts_hear (w : World H) (g : Nat) (l : SessionLink H)
    (effects : List (Connection.Effect (Reply H) String)) :
    ∃ new ended, w.Accounts ((w.setLink g l).hear g effects) new ended := by
  have hs : submitted (effects.filterMap (recordOf g)) = [] :=
    filterMap_record (fun _ _ => rfl) (fun _ => rfl) (fun _ => rfl) effects
  have ht : taken (effects.filterMap (recordOf g)) = [] :=
    filterMap_record (fun _ _ => rfl) (fun _ => rfl) (fun _ => rfl) effects
  have he : endings (effects.filterMap (recordOf g)) = [] :=
    filterMap_record (fun _ _ => rfl) (fun _ => rfl) (fun _ => rfl) effects
  have hl : ∀ handler, .lost handler ∉ effects.filterMap (recordOf g) := by
    intro handler he
    rcases mem_filterMap_recordOf he with ⟨_, _, he⟩ | ⟨_, he⟩ | ⟨_, he⟩ <;> cases he
  refine ⟨effects.filterMap (recordOf g), [], ?_⟩
  rcases (w.setLink g l).hear_cases g effects with ⟨-, hw⟩ | ⟨-, hw⟩ <;> rw [hw]
  all_goals
    refine .of_session_eq (history_note _ _) rfl ht he hl ?_
    rw [hs, List.append_nil]
    rfl

/-- **Every act that does not end the session keeps the accounts of callers' requests.** -/
theorem accounts_act (h : w.Generations) (a : Act H) (he : (w.act a).stage ≠ .ended) :
    ∃ new ended, w.Accounts (w.act a) new ended := by
  have hsame : ∀ {w' : World H}, w'.history = w.history → w'.session = w.session →
      w'.commands = w.commands → ∃ new ended, w.Accounts w' new ended := by
    intro w' hh hs hc
    exact ⟨[], [], .of_session_eq (by rw [hh, List.append_nil]) hs rfl rfl (by simp)
      (by rw [hc]; exact (List.append_nil _).symm)⟩
  cases a with
  | submit request handler => exact w.accounts_submit request handler
  | subscribe event handler => exact w.accounts_tryCommand _ handler rfl
  | onDisconnect handler => exact w.accounts_tryCommand _ handler rfl
  | onLogin handler => exact w.accounts_tryCommand _ handler rfl
  | shutdown => exact hsame rfl rfl rfl
  | clone => exact hsame rfl rfl rfl
  | drop => exact hsame rfl rfl rfl
  | offer g outcome => exact w.accounts_updateLink g _
  | arrive g i => exact w.accounts_updateLink g _
  | breakWrites g reason => exact w.accounts_updateLink g _
  | stall g => exact w.accounts_updateLink g _
  | resume g => exact w.accounts_updateLink g _
  | elapse milliseconds => exact hsame rfl rfl rfl
  | step =>
    revert he
    show (w.step?.getD w).stage ≠ .ended → ∃ new ended, w.Accounts (w.step?.getD w) new ended
    cases hs : w.step? with
    | none => exact fun _ => hsame rfl rfl rfl
    | some w' =>
      intro he
      exact accounts_step h (step_of_step? hs) he
  | linkStep g =>
    show ∃ new ended, w.Accounts ((w.linkStep? g).getD w) new ended
    cases hs : w.linkStep? g with
    | none => exact hsame rfl rfl rfl
    | some w' =>
      obtain ⟨l, l', effects, -, -, rfl⟩ := linkStep?_eq_some hs
      exact w.accounts_hear g l' effects

/-! ### Runs -/

/-- A session that has ended stays so. -/
theorem stage_act_of_ended (h : w.stage = .ended) (a : Act H) : (w.act a).stage = .ended := by
  refine w.act_cases (P := fun w' => w'.stage = .ended) a (fun w' hs => ?_) (fun w' hs => ?_)
    fun g l l' effects _ _ => ?_
  · rw [hs.stage, h]
  · exact absurd h hs.stage_ne_ended
  · rcases (w.setLink g l').hear_cases g effects with ⟨-, hw⟩ | ⟨hne, -⟩
    · rw [hw]
      exact h
    · exact absurd h hne

theorem stage_all_of_ended (h : w.stage = .ended) (acts : List (Act H)) :
    (w.all acts).stage = .ended := by
  induction acts generalizing w with
  | nil => exact h
  | cons a acts ih => exact ih (stage_act_of_ended h a)

/-- **Until the session ends, what was submitted is what has come to its end, then what the session
has, then what is in the channel.** -/
theorem ledger_run (setup : Setup H) (acts : List (Act H)) (h : (run setup acts).stage ≠ .ended) :
    Conserved (run setup acts).session (run setup acts).history ∧
      submitted (run setup acts).history =
        taken (run setup acts).history ++ entries (run setup acts).commands := by
  revert h
  refine run_induction (P := fun w => w.stage ≠ .ended → Conserved w.session w.history ∧
    submitted w.history = taken w.history ++ entries w.commands) ?_ ?_ acts
  · intro _
    obtain ⟨subscriptions, hs⟩ := setup.session_eq
    rw [hs]
    exact ⟨⟨rfl, rfl⟩, rfl⟩
  · intro acts a ih he
    have hne : (run setup acts).stage ≠ .ended := fun h => he (stage_act_of_ended h a)
    obtain ⟨new, ended, ha⟩ := accounts_act (generations_run setup acts) a he
    obtain ⟨hc, hs⟩ := ih hne
    rw [ha.history]
    refine ⟨(hc.step ha.outstanding ha.endings ha.callers).2, ?_⟩
    rw [submitted_append, taken_append, hs, List.append_assoc, List.append_assoc, ha.commands]

end World

end PrintClient.Session
