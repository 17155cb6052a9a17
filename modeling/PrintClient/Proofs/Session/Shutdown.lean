import Mathlib.Data.List.Basic
import PrintClient.Proofs.Session.Writes
import PrintClient.Session.Calls

/-!
# The end of a session

A session ends when a caller wants it to, or when no caller can reach it any more and it has taken
all commands. In the step that ends it every request that has not come to its end is given up, and
the state becomes disconnected. After that it does nothing, its connections only give handlers up
and finish what they were writing, and whatever callers ask of it is refused.

* `World.MustEnd`: the session is to end, and its next step ends it; `mustEnd_of_ended` says that no
  other act does;
* `sameWish_act`, `cancelled_act`, `ended_of_cancelled`: a wish to end is kept, and two steps meet
  it;
* `farewell_ends`: that step gives every request up that has not come to its end;
* `World.OnlyRefused`, `onlyRefused_all_of_ended`: after it, texts that were being written aside,
  only refusals are recorded, one for each handler handed in;
* `World.Closed`, `closed_of_ended`: what a session is that has ended;
* `shutdown_is_final`: what holds of every run from that step on.
-/

namespace PrintClient.Session

variable {H : Type}

/-- Whether a caller comes, goes or wants the session to end. -/
def Act.isWish : Act H → Bool
  | .shutdown | .clone | .drop => true
  | _ => false

/-- The handler that a caller hands in with an act. -/
def Act.handler? : Act H → Option H
  | .submit _ handler => some handler
  | .subscribe _ handler => some handler
  | .onDisconnect handler => some handler
  | .onLogin handler => some handler
  | _ => none

/-- The events but those that tell that the transport has taken a text. -/
def withoutArmed (l : List (Event H)) : List (Event H) :=
  l.filter fun
    | .armed .. => false
    | _ => true

theorem withoutArmed_append (l m : List (Event H)) :
    withoutArmed (l ++ m) = withoutArmed l ++ withoutArmed m :=
  List.filter_append l m

/-- What is told of a text that has been taken does not matter to a search that passes it over. -/
theorem filterMap_withoutArmed {α : Type} (f : Event H → Option α)
    (hf : ∀ g id, f (.armed g id) = none) (l : List (Event H)) :
    (withoutArmed l).filterMap f = l.filterMap f := by
  rw [withoutArmed, List.filterMap_filter]
  refine List.filterMap_congr fun e _ => ?_
  cases e with
  | armed g id => exact (hf g id).symm
  | _ => rfl

/-! ### Handlers that are given up at the end -/

theorem callers_append (q r : List (Queued H)) : callers (q ++ r) = callers q ++ callers r :=
  List.filterMap_append

theorem callers_outstanding (s : Session H) :
    callers (outstanding s) = callers s.inFlight.toList ++ callers s.queue := by
  rw [outstanding, callers_callerEntries, callers_append]

theorem callers_entries (commands : List (Command H)) :
    callers (entries commands) = commands.filterMap World.Command.handler? := by
  rw [callers, entries, List.filterMap_filterMap]
  apply List.filterMap_congr
  intro c _
  cases c <;> rfl

theorem endings_farewell (s : Session H) (commands : List (Command H)) :
    endings (s.farewell commands) =
      callers s.inFlight.toList ++ callers s.queue ++
        commands.filterMap World.Command.handler? := by
  have hentered : ∀ l : List (Event H), endings (.entered .disconnected :: l) = endings l :=
    fun _ => rfl
  rw [farewell, endings_append, endings_map_lost, hentered, endings_map_lost]

theorem submitted_farewell (s : Session H) (commands : List (Command H)) :
    submitted (s.farewell commands) = [] := by
  rw [farewell, submitted_append, World.submitted_map_lost, List.nil_append]
  exact World.submitted_map_lost (commands.filterMap World.Command.handler?)

namespace World

/-- The session is at work and is to end: a caller wants it, or no caller is left. -/
structure MustEnd (w : World H) : Prop where
  stage : w.stage = .running
  wish : w.cancelled = true ∨ w.commands = [] ∧ w.handles = 0

variable {w w' : World H}

theorem MustEnd.act_step (h : w.MustEnd) : w.act .step = w.stop := by
  have hstep : w.step? = some w.stop := by
    unfold step? runStep?
    rw [h.stage]
    rcases h.wish with hc | ⟨hc, hh⟩
    · simp [hc]
    · simp [hc, hh]
  show w.step?.getD w = w.stop
  rw [hstep]
  rfl

/-- The step after which a session has ended is one that it had to end with. -/
theorem Step.mustEnd {key : String} (hg : w.Generations) (hx : w.Exchange key) (h : w.Step w')
    (hend : w'.stage = .ended) : w.MustEnd := by
  have hr : w.stage = .running := by
    cases h with
    | start => rw [connect_eq] at hend; cases hend
    | stop stage => exact stage
    | obey stage => exact stage
    | heed stage => exact stage
    | skip stage => exact stage
    | retry stage => exact stage
  obtain ⟨o, hturn, htook⟩ := h.turn hg hx
  rw [htook.stage] at hend
  cases hturn with
  | stop wish => exact ⟨hr, wish⟩
  | _ => cases hend

/-! ### Who wants a session to end -/

/-- As many callers can reach the session, and the same wish to end stands. -/
structure SameWish (w w' : World H) : Prop where
  cancelled : w'.cancelled = w.cancelled
  handles : w'.handles = w.handles

theorem sameWish_advance (w : World H) : w.SameWish w.advance := by
  obtain ⟨links, session, hw, -⟩ := w.advance_eq
  rw [hw]
  exact ⟨rfl, rfl⟩

theorem sameWish_fail (w : World H) (failure : Failure) : w.SameWish (w.fail failure) := by
  obtain ⟨links, -, hw⟩ := w.fail_eq failure
  rw [hw]
  exact ⟨rfl, rfl⟩

theorem sameWish_complete (w : World H) (data : Json) : w.SameWish (w.complete data) := by
  cases hi : w.session.inFlight with
  | none => simpa [complete, hi] using (⟨rfl, rfl⟩ : w.SameWish w)
  | some q =>
    cases hr : q.reply with
    | caller handler =>
      rw [complete_of_caller hi data hr]
      have h := sameWish_advance
        ({ w with session := { w.session with inFlight := none } }.note [.replied handler data])
      exact ⟨h.cancelled, h.handles⟩
    | login =>
      cases hok : checkOk q.request.action data with
      | ok =>
        rw [complete_of_accepted hi data hr hok]
        exact ⟨(sameWish_advance _).cancelled, (sameWish_advance _).handles⟩
      | error failure =>
        rw [complete_of_refused hi data hr hok]
        exact ⟨(sameWish_fail _ failure).cancelled, (sameWish_fail _ failure).handles⟩

/-- A session does not change who can reach it, or whether it is to end. -/
theorem Step.sameWish (h : w.Step w') : w.SameWish w' := by
  cases h with
  | start => rw [connect_eq]; exact ⟨rfl, rfl⟩
  | stop =>
    obtain ⟨links, -, hw⟩ := w.stop_eq
    rw [hw]
    exact ⟨rfl, rfl⟩
  | @obey command rest =>
    cases command with
    | submit request handler =>
      exact ⟨(sameWish_advance _).cancelled, (sameWish_advance _).handles⟩
    | subscribe event handler =>
      obtain ⟨links, -, hw⟩ := obey_subscribe_eq { w with commands := rest } event handler
      rw [hw]
      exact ⟨rfl, rfl⟩
    | _ => exact ⟨rfl, rfl⟩
  | @heed notice =>
    cases notice with
    | handshaked => exact ⟨(sameWish_advance _).cancelled, (sameWish_advance _).handles⟩
    | completed data =>
      exact ⟨(sameWish_complete _ data).cancelled, (sameWish_complete _ data).handles⟩
    | failed failure =>
      exact ⟨(sameWish_fail _ failure).cancelled, (sameWish_fail _ failure).handles⟩
    | event e => exact ⟨rfl, rfl⟩
  | skip => exact ⟨rfl, rfl⟩
  | retry => rw [connect_eq]; exact ⟨rfl, rfl⟩

/-- Only callers change it. -/
theorem sameWish_act (w : World H) {a : Act H} (h : a.isWish = false) : w.SameWish (w.act a) := by
  have htaken : ∀ c handler, w.SameWish (w.tryCommand c handler) := by
    intro c handler
    rcases w.command_cases c with ⟨-, hc⟩ | ⟨-, hc⟩ <;> rw [tryCommand, hc] <;> exact ⟨rfl, rfl⟩
  have hlink : ∀ g f, w.SameWish (w.updateLink g f) := by
    intro g f
    obtain ⟨links, -, hw⟩ := w.updateLink_eq g f
    rw [hw]
    exact ⟨rfl, rfl⟩
  cases a with
  | submit request handler =>
    show w.SameWish (w.submit request handler)
    rcases w.command_cases (.submit request handler) with ⟨-, hc⟩ | ⟨-, hc⟩ <;> rw [submit, hc] <;>
      exact ⟨rfl, rfl⟩
  | subscribe event handler => exact htaken _ handler
  | onDisconnect handler => exact htaken _ handler
  | onLogin handler => exact htaken _ handler
  | shutdown => cases h
  | clone => cases h
  | drop => cases h
  | offer g outcome => exact hlink g _
  | arrive g i => exact hlink g _
  | breakWrites g reason => exact hlink g _
  | stall g => exact hlink g _
  | resume g => exact hlink g _
  | elapse milliseconds => exact ⟨rfl, rfl⟩
  | step =>
    show w.SameWish (w.step?.getD w)
    cases hs : w.step? with
    | none => exact ⟨rfl, rfl⟩
    | some w' => exact (step_of_step? hs).sameWish
  | linkStep g =>
    show w.SameWish ((w.linkStep? g).getD w)
    cases hs : w.linkStep? g with
    | none => exact ⟨rfl, rfl⟩
    | some w' =>
      obtain ⟨l, l', effects, -, -, rfl⟩ := linkStep?_eq_some hs
      rcases (w.setLink g l').hear_cases g effects with ⟨-, hw⟩ | ⟨-, hw⟩ <;> rw [hw] <;>
        exact ⟨rfl, rfl⟩

/-- A wish to end is not taken back. -/
theorem cancelled_act (h : w.cancelled = true) (a : Act H) : (w.act a).cancelled = true := by
  cases ha : a.isWish with
  | false => exact (w.sameWish_act ha).cancelled.trans h
  | true =>
    cases a with
    | shutdown => rfl
    | clone => exact h
    | drop => exact h
    | _ => cases ha

theorem MustEnd.stage_act (h : w.MustEnd) : (w.act .step).stage = .ended := by
  obtain ⟨links, -, hw⟩ := w.stop_eq
  rw [h.act_step, hw]
  rfl

/-- The first step of a session sends its first connection on its way. -/
theorem act_step_of_starting (h : w.stage = .starting) :
    w.act .step = ({ w with stage := .running } : World H).connect := by
  show w.step?.getD w = _
  unfold step?
  rw [h]
  rfl

/-- A session that is to end needs two steps for it at most, of which the first may be its very
first one. -/
theorem ended_of_cancelled (h : w.cancelled = true) :
    ((w.act .step).act .step).stage = .ended := by
  cases hs : w.stage with
  | ended => exact stage_act_of_ended (stage_act_of_ended hs _) _
  | running => exact stage_act_of_ended (MustEnd.stage_act ⟨hs, .inl h⟩) _
  | starting =>
    refine MustEnd.stage_act ⟨?_, .inl (cancelled_act h _)⟩
    rw [act_step_of_starting hs, connect_eq]
    rfl

section Runs

variable (setup : Setup H) (acts : List (Act H))

/-- **Only a step that the session had to end with ends it.** -/
theorem mustEnd_of_ended {a : Act H} (hs : (run setup acts).stage ≠ .ended)
    (hend : ((run setup acts).act a).stage = .ended) : a = .step ∧ (run setup acts).MustEnd := by
  rcases (run setup acts).aside_or_step a with haside | ⟨ha, hstep⟩
  · rw [haside.stage] at hend
    exact absurd hend hs
  · exact ⟨ha, hstep.mustEnd (generations_run setup acts) (exchange_run setup acts) hend⟩

/-! ### The last step -/

variable {setup acts} in
theorem MustEnd.history_act (h : (run setup acts).MustEnd) :
    ((run setup acts).act .step).history =
      (run setup acts).history ++ (run setup acts).session.farewell (run setup acts).commands := by
  obtain ⟨links, -, hw⟩ := (run setup acts).stop_eq
  rw [h.act_step, hw, history_note]
  rfl

/-- With the last step every request that was submitted has come to its end. -/
theorem farewell_ends (h : (run setup acts).MustEnd) :
    endings ((run setup acts).act .step).history =
      callers (submitted ((run setup acts).act .step).history) := by
  obtain ⟨hc, hs⟩ := ledger_run setup acts (by rw [h.stage]; decide)
  rw [h.history_act, endings_append, submitted_append, endings_farewell, submitted_farewell,
    List.append_nil, hs, hc.taken, ← hc.endings, callers_append, callers_append,
    callers_outstanding, callers_entries, List.append_assoc, List.append_assoc, List.append_assoc]

/-! ### Nothing more happens -/

end Runs

/-- All that has happened since is that these handlers were refused, and that the transport has taken
texts which were handed to it before. -/
def OnlyRefused (w w' : World H) (handlers : List H) : Prop :=
  ∃ es, w'.history = w.history ++ es ∧ withoutArmed es = handlers.map .refused ∧
    ∀ g id, .armed g id ∈ es → ∃ q, .wrote g id q ∈ w.history

theorem OnlyRefused.of_history (h : w'.history = w.history) : w.OnlyRefused w' [] :=
  ⟨[], h.trans (List.append_nil _).symm, rfl, by simp⟩

theorem onlyRefused_note (w : World H) (handler : H) :
    w.OnlyRefused (w.note [.refused handler]) [handler] :=
  ⟨[.refused handler], history_note _ _, rfl, by simp⟩

/-- What was not handed over meanwhile was so before. -/
theorem OnlyRefused.trans {w'' : World H} {handlers handlers' : List H}
    (h : w.OnlyRefused w' handlers) (h' : w'.OnlyRefused w'' handlers') :
    w.OnlyRefused w'' (handlers ++ handlers') := by
  obtain ⟨es, hes, hfirst, harmed⟩ := h
  obtain ⟨later, hlater, hrest, hknown⟩ := h'
  rw [hes] at hknown
  rw [hes, List.append_assoc] at hlater
  refine ⟨es ++ later, hlater, ?_, fun g id hmem => ?_⟩
  · rw [withoutArmed_append, hfirst, hrest, List.map_append]
  · rcases List.mem_append.1 hmem with hmem | hmem
    · exact harmed g id hmem
    · obtain ⟨q, hq⟩ := hknown g id hmem
      refine (List.mem_append.1 hq).elim (fun hq => ⟨q, hq⟩) fun hq => ?_
      have hleft : .wrote g id q ∈ withoutArmed es := List.mem_filter.2 ⟨hq, rfl⟩
      rw [hfirst] at hleft
      simp at hleft

/-- A search that passes over refusals and texts that were taken finds nothing new. -/
theorem OnlyRefused.filterMap_eq {handlers : List H} (h : w.OnlyRefused w' handlers) {α : Type}
    (f : Event H → Option α) (hf : ∀ handler, f (.refused handler) = none)
    (ha : ∀ g id, f (.armed g id) = none) : w'.history.filterMap f = w.history.filterMap f := by
  obtain ⟨es, hes, hrefused, -⟩ := h
  have hnone : (handlers.map Event.refused).filterMap f = [] := by
    refine List.filterMap_eq_nil_iff.2 fun e he => ?_
    obtain ⟨handler, -, rfl⟩ := List.mem_map.1 he
    exact hf handler
  rw [hes, List.filterMap_append, ← filterMap_withoutArmed f ha es, hrefused, hnone,
    List.append_nil]

/-- Refusals end no request. -/
theorem OnlyRefused.endings_eq {handlers : List H} (h : w.OnlyRefused w' handlers) :
    endings w'.history = endings w.history :=
  h.filterMap_eq Event.ending? (fun _ => rfl) fun _ _ => rfl

/-- What is refused is not accepted. -/
theorem OnlyRefused.submitted_eq {handlers : List H} (h : w.OnlyRefused w' handlers) :
    submitted w'.history = submitted w.history :=
  h.filterMap_eq Event.submission? (fun _ => rfl) fun _ _ => rfl

section Runs

variable (setup : Setup H) (acts : List (Act H))

/-- A session that has ended holds no connection. -/
theorem held_of_ended (he : (run setup acts).stage = .ended) :
    (run setup acts).session.held = none := by
  by_contra hne
  have hr := (generations_run setup acts).running hne
  rw [he] at hr
  cases hr

/-- Once the session has ended its connections tell nobody anything. -/
theorem silent_of_ended (he : (run setup acts).stage = .ended) {g : Nat} {l l' : SessionLink H}
    {now : Nat} {effects : List (Connection.Effect (Reply H) String)}
    (hl : (run setup acts).link? g = some l) (hs : l.step? now = some (l', effects)) :
    ∀ e ∈ effects, e.IsSilent := by
  have hclosed : l.connection.cancelled = true := by
    by_contra hopen
    have hheld := (generations_run setup acts).held_of_open hl (Bool.not_eq_true _ ▸ hopen)
    rw [held_of_ended setup acts he] at hheld
    cases hheld
  exact Link.step?_of_cancelled hclosed hs

theorem command_of_ended (he : w.stage = .ended) (c : Command H) :
    w.command c = .error .sessionClosed := by
  rcases w.command_cases c with ⟨-, hc⟩ | ⟨hne, -⟩
  · exact hc
  · exact absurd he hne

/-- What a caller asks is refused, and nothing else is recorded but that a text has been taken. -/
theorem onlyRefused_act_of_ended (he : (run setup acts).stage = .ended) (a : Act H) :
    (run setup acts).OnlyRefused ((run setup acts).act a) a.handler?.toList := by
  have hrefused : ∀ c handler,
      (run setup acts).OnlyRefused ((run setup acts).tryCommand c handler) [handler] := by
    intro c handler
    rw [tryCommand, command_of_ended he]
    exact onlyRefused_note _ handler
  have hlink : ∀ g f, (run setup acts).OnlyRefused ((run setup acts).updateLink g f) [] := by
    intro g f
    obtain ⟨links, -, hw⟩ := (run setup acts).updateLink_eq g f
    rw [hw]
    exact .of_history rfl
  cases a with
  | submit request handler =>
    show (run setup acts).OnlyRefused ((run setup acts).submit request handler) [handler]
    rw [submit, command_of_ended he]
    exact onlyRefused_note _ handler
  | subscribe event handler => exact hrefused _ handler
  | onDisconnect handler => exact hrefused _ handler
  | onLogin handler => exact hrefused _ handler
  | step =>
    show (run setup acts).OnlyRefused ((run setup acts).step?.getD _) []
    have hstep : (run setup acts).step? = none := by
      unfold step?
      rw [he]
    rw [hstep]
    exact .of_history rfl
  | linkStep g =>
    show (run setup acts).OnlyRefused (((run setup acts).linkStep? g).getD _) []
    cases hs : (run setup acts).linkStep? g with
    | none => exact .of_history rfl
    | some w' =>
      obtain ⟨l, l', effects, hl, hstep, rfl⟩ := linkStep?_eq_some hs
      have hsilent := silent_of_ended setup acts he hl hstep
      refine ⟨effects.filterMap (recordOf g), history_hear _ g effects, ?_, fun g' id harmed => ?_⟩
      · refine List.filter_eq_nil_iff.2 fun e hmem => ?_
        obtain ⟨effect, heffect, hrecord⟩ := List.mem_filterMap.1 hmem
        have hquiet := hsilent effect heffect
        cases effect with
        | armed =>
          cases hrecord
          exact Bool.false_ne_true
        | dropped => cases hrecord
        | _ => exact hquiet.elim
      · exact wrote_of_armed setup acts hl hstep harmed
  | offer g outcome => exact hlink g _
  | arrive g i => exact hlink g _
  | breakWrites g reason => exact hlink g _
  | stall g => exact hlink g _
  | resume g => exact hlink g _
  | _ => exact .of_history rfl

/-- **After the end only refusals are recorded**, one for each handler that a caller hands in, and
that the transport has taken texts which were handed to it before. -/
theorem onlyRefused_all_of_ended (he : (run setup acts).stage = .ended) (more : List (Act H)) :
    (run setup acts).OnlyRefused (run setup (acts ++ more)) (more.filterMap Act.handler?) := by
  induction more generalizing acts with
  | nil => exact .of_history (by rw [List.append_nil])
  | cons a more ih =>
    have hfirst := onlyRefused_act_of_ended setup acts he a
    rw [← run_concat] at hfirst
    have hended : (run setup (acts ++ [a])).stage = .ended := by
      rw [run_concat]
      exact stage_act_of_ended he a
    have hboth := hfirst.trans (ih (acts ++ [a]) hended)
    rw [← List.append_cons] at hboth
    have hhandlers :
        (a :: more).filterMap Act.handler? = a.handler?.toList ++ more.filterMap Act.handler? := by
      cases ha : a.handler? <;> simp [ha]
    rwa [hhandlers]

/-- Every request that was submitted to a session that has ended has come to its end. -/
theorem endings_of_ended (he : (run setup acts).stage = .ended) :
    endings (run setup acts).history = callers (submitted (run setup acts).history) := by
  revert he
  refine run_induction (P := fun w => w.stage = .ended → endings w.history =
    callers (submitted w.history)) ?_ ?_ acts
  · intro he
    cases he
  · intro acts a ih he
    by_cases hs : (run setup acts).stage = .ended
    · have hrefused := onlyRefused_act_of_ended setup acts hs a
      rw [hrefused.endings_eq, hrefused.submitted_eq]
      exact ih hs
    · obtain ⟨rfl, hmust⟩ := mustEnd_of_ended setup acts hs he
      exact farewell_ends setup acts hmust

end Runs

/-! ### A session that has ended -/

section Closed

variable [DecidableEq H]

/-- The session has ended: it is disconnected, all requests that it has accepted have come to their
end, its connections do nothing that anybody is told of, and whatever a caller asks is refused. -/
structure Closed (w : World H) : Prop where
  stage : w.stage = .ended
  state : w.session.state = .disconnected
  requests : endings w.history = callers (submitted w.history)
  /-- A connection gives handlers up, or it was writing and its text has been taken. -/
  connections : ∀ g l, w.link? g = some l → ∀ now l' effects, l.step? now = some (l', effects) →
    ∀ e ∈ effects, e.IsSilent
  /-- Requests, subscriptions and the handlers of teardowns and logins are refused. -/
  refuses : ∀ c, w.command c = .error .sessionClosed
  /-- Who waits for the response to a request that is submitted now is told so. -/
  response : ∀ request handler, w.fate? handler = none →
    (w.submit request handler).outcome? handler = some (.error .sessionClosed)
  /-- Who waits for the login is told so. -/
  login : w.connected? = some (.error .sessionClosed)

theorem closed_of_ended (setup : Setup H) (acts : List (Act H))
    (he : (run setup acts).stage = .ended) : (run setup acts).Closed := by
  have hstate : (run setup acts).session.state = .disconnected :=
    (generations_run setup acts).state.2 (held_of_ended setup acts he)
  constructor
  · exact he
  · exact hstate
  · exact endings_of_ended setup acts he
  · intro g l hl now l' effects hs
    exact silent_of_ended setup acts he hl hs
  · exact command_of_ended he
  · intro request handler hfresh
    -- The refusal is the first that becomes of the request.
    have hfate : ((run setup acts).submit request handler).fate? handler = some .refused := by
      rw [submit, command_of_ended he]
      have hnone : (run setup acts).trace.filterMap (fun e => e.2.fate? handler) = [] :=
        List.head?_eq_none_iff.1 hfresh
      have hlast : Event.fate? handler (.refused handler) = some .refused := if_pos rfl
      show ((((run setup acts).note [.refused handler]).trace.filterMap _).head? = _)
      simp only [note, List.filterMap_append, hnone, List.map_cons, List.map_nil, List.nil_append,
        List.filterMap_cons, List.filterMap_nil, hlast, List.head?_cons]
    rw [outcome?, hfate]
    rfl
  · unfold connected?
    rw [hstate, he]
    rfl

/-- **The end of a session is final.** When a session at work is to end, its next step ends it. In
this step it gives up the handlers of the request on its way and of those that wait in its queue or
in the channel, and it calls none, not even those of a teardown. From then on it is closed, whatever
callers, the transport, the clock and its connections do: it does not connect, nothing is written or
read on any connection, no handler is called, and all that is recorded is that what callers ask is
refused, and that the transport has taken a text which was handed to it before. No other act ends a
session. -/
theorem shutdown_is_final (setup : Setup H) (acts : List (Act H)) (h : (run setup acts).MustEnd)
    (more : List (Act H)) :
    (run setup (acts ++ [.step])).history = (run setup acts).history ++
      ((callers (run setup acts).session.inFlight.toList ++
          callers (run setup acts).session.queue).map .lost ++
        .entered .disconnected ::
          ((run setup acts).commands.filterMap Command.handler?).map .lost) ∧
    (run setup (acts ++ [.step])).Closed ∧
    (run setup (acts ++ [.step])).OnlyRefused (run setup (acts ++ [.step] ++ more))
      (more.filterMap Act.handler?) ∧
    (run setup (acts ++ [.step] ++ more)).Closed ∧
    ∀ before a, (run setup before).stage ≠ .ended → ((run setup before).act a).stage = .ended →
      a = .step ∧ (run setup before).MustEnd := by
  have hended : (run setup (acts ++ [.step])).stage = .ended := by
    obtain ⟨links, -, hw⟩ := (run setup acts).stop_eq
    rw [run_concat, h.act_step, hw]
    rfl
  have hstays : (run setup (acts ++ [.step] ++ more)).stage = .ended := by
    rw [run_append]
    exact stage_all_of_ended hended more
  refine ⟨?_, closed_of_ended setup _ hended, onlyRefused_all_of_ended setup _ hended more,
    closed_of_ended setup _ hstays, fun before a => mustEnd_of_ended setup before⟩
  rw [run_concat]
  exact h.history_act

end Closed

/-- The session is to end with one request being written, one in the queue and one in the
channel. -/
def sampleShutdown : List (Act Nat) :=
  sampleLogin ++ [.submit (.named "listPrinter") 1, .submit (.named "listModels") 2, .step, .step,
    .linkStep 1, .submit (.named "listModels") 3, .shutdown]

/-- What callers, the connection and the clock do afterwards. -/
def sampleAftermath : List (Act Nat) :=
  [.linkStep 1, .submit (.named "listPrinter") 4, .arrive 1 .ended, .elapse 5000, .linkStep 1,
    .subscribe "temp" 5, .step]

theorem sampleShutdown_gives_up :
    (run sampleSetup sampleShutdown).MustEnd ∧
    (run sampleSetup (sampleShutdown ++ [.step])).history =
      (run sampleSetup sampleShutdown).history ++
        [.lost 1, .lost 2, .entered .disconnected, .lost 3] ∧
    (run sampleSetup (sampleShutdown ++ [.step])).OnlyRefused
      (run sampleSetup (sampleShutdown ++ [.step] ++ sampleAftermath)) [4, 5] ∧
    (run sampleSetup (sampleShutdown ++ [.step] ++ sampleAftermath)).Closed := by
  have hstage : (run sampleSetup sampleShutdown).stage = .running := by decide +kernel
  have hwish : (run sampleSetup sampleShutdown).cancelled = true := by decide +kernel
  have hinFlight : (run sampleSetup sampleShutdown).session.inFlight =
      some ⟨.named "listPrinter", .caller 1⟩ := by
    decide +kernel
  have hqueue : (run sampleSetup sampleShutdown).session.queue =
      [⟨.named "listModels", .caller 2⟩] := by
    decide +kernel
  have hcommands : (run sampleSetup sampleShutdown).commands =
      [.submit (.named "listModels") 3] := by
    decide +kernel
  have hmust : (run sampleSetup sampleShutdown).MustEnd := ⟨hstage, .inl hwish⟩
  obtain ⟨hlast, -, hafter, hclosed, -⟩ :=
    shutdown_is_final sampleSetup sampleShutdown hmust sampleAftermath
  rw [hinFlight, hqueue, hcommands] at hlast
  exact ⟨hmust, hlast, hafter, hclosed⟩

end World

end PrintClient.Session
