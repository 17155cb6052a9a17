import PrintClient.Proofs.Connection.Reports

/-!
# What a stopped connection says

The flag of a connection is cleared when a request is answered or times out, and when the connection
is done with its work. It is not cleared when the connection ends. So a request that is taken on the
way to the server, which its owner then closes, leaves the flag set for good, and so does one that
is taken between the end of the work and the end of the connection. All that is sent later is
refused: with the failure of a connection that has stopped if the flag is clear, and else with that
of one that is busy.

* `Silent`: histories in which no handler is called;
* `Run.Late`, `late_concat`: requests that are taken when the work is done;
* `Run.Stranded`: requests that nothing clears the flag for;
* `Flags`, `flags_after`: what the flag tells in each phase;
* `act_of_ended`, `send_of_ended`: a connection that has ended stays so, and takes nothing;
* `stopped_connection_answers`: what every connection says that has stopped;
* `writing_all_of_stalled`: a connection does not stop while its transport takes nothing.
-/

namespace PrintClient

namespace Connection

variable {R E : Type}

/-! ### Requests that are left over -/

/-- No handler was called. -/
def Silent (history : List (Event R E)) : Prop := ∀ e ∈ history, e.isCall = false

theorem silent_append {history more : List (Event R E)} :
    Silent (history ++ more) ↔ Silent history ∧ Silent more :=
  List.forall_mem_append

namespace Run

/-- The connection was done with its work, and took one more request. -/
def Late (timeout : Nat) (acts : List (Act R E)) : Prop :=
  ∃ before request handler later, acts = before ++ .send request handler :: later ∧
    (after timeout before).link.connection.phase = .closing ∧
    (after timeout before).link.connection.busy = false

/-- A request was taken, and the connection ended without clearing the flag. -/
inductive Stranded (timeout : Nat) (acts : List (Act R E)) : Prop
  /-- The connection ended on its way to the server: it called no handler, not even that of
  failures. -/
  | onTheWay (taken : accepted (after timeout acts).history ≠ [])
      (silent : Silent (after timeout acts).history)
  /-- The request was taken when the work was done. -/
  | late (late : Late timeout acts)

/-- This act hands a request to a connection that is done with its work, and takes it. -/
def IsLate (r : Run R E) (a : Act R E) : Prop :=
  ∃ request handler, a = .send request handler ∧ r.link.connection.phase = .closing ∧
    r.link.connection.busy = false

theorem late_concat {timeout : Nat} {acts : List (Act R E)} {a : Act R E} :
    Late timeout (acts ++ [a]) ↔ Late timeout acts ∨ (after timeout acts).IsLate a := by
  constructor
  · rintro ⟨before, request, handler, later, hsplit, hphase, hbusy⟩
    rcases List.eq_nil_or_concat later with rfl | ⟨later, last, rfl⟩
    · obtain ⟨rfl, hlast⟩ := List.append_inj' hsplit rfl
      exact .inr ⟨request, handler, List.singleton_inj.1 hlast, hphase, hbusy⟩
    · rw [List.concat_eq_append, ← List.cons_append, ← List.append_assoc] at hsplit
      obtain ⟨rfl, -⟩ := List.append_inj' hsplit rfl
      exact .inl ⟨before, request, handler, later, rfl, hphase, hbusy⟩
  · rintro (⟨before, request, handler, later, rfl, hphase, hbusy⟩ |
      ⟨request, handler, rfl, hphase, hbusy⟩)
    · exact ⟨before, request, handler, later ++ [a], by simp, hphase, hbusy⟩
    · exact ⟨acts, request, handler, [], rfl, hphase, hbusy⟩

end Run

/-! ### What the flag tells -/

/-- What the flag of a connection tells in each phase, where `late` says that a request was taken
when the work was done. -/
def Flags (c : Connection R E) (history : List (Event R E)) (late : Prop) : Prop :=
  match c.phase with
  | .idle | .opening => Silent history ∧ ¬ late ∧ (c.busy = true ↔ accepted history ≠ [])
  | .talking _ | .writing .. => ¬ Silent history ∧ ¬ late
  | .closing => ¬ Silent history ∧ (c.busy = true ↔ late)
  | .ended => c.busy = true ↔ (accepted history ≠ [] ∧ Silent history) ∨ late

section Flags

variable {c c' : Connection R E} {history : List (Event R E)} {late : Prop}

theorem Flags.alike (h : c.Flags history late) (ha : c.Alike c') : c'.Flags history late := by
  unfold Flags at h ⊢
  rwa [ha.phase, ha.busy]

/-- A request that is refused changes nothing. -/
theorem Flags.refuse (h : c.Flags history late) (handler : R) (failure : Failure) :
    c.Flags (history ++ [.refused handler failure]) late := by
  have hsilent : Silent [Event.refused (E := E) handler failure] := by simp [Silent, Event.isCall]
  have hnone : accepted (history ++ [.refused (E := E) handler failure]) = accepted history := by
    rw [accepted_append]
    exact List.append_nil _
  unfold Flags at h ⊢
  rw [silent_append, hnone]
  simpa only [hsilent, and_true] using h

/-- A request that is taken sets the flag. -/
theorem Flags.take (h : c.Flags history late) (hidle : c.phase ≠ .idle) (hended : c.phase ≠ .ended)
    (hphase : c'.phase = c.phase) (hbusy : c'.busy = true) (handler : R) :
    c'.Flags (history ++ [.accepted handler]) (late ∨ c.phase = .closing) := by
  have hsilent : Silent [Event.accepted (E := E) handler] := by simp [Silent, Event.isCall]
  have htaken : accepted (history ++ [.accepted (E := E) handler]) ≠ [] := by
    rw [accepted_append]
    exact List.append_ne_nil_of_right_ne_nil _ (List.cons_ne_nil _ _)
  unfold Flags at h ⊢
  rw [hphase, hbusy, silent_append]
  cases hp : c.phase with
  | idle => exact absurd hp hidle
  | ended => exact absurd hp hended
  | opening =>
    simp only [hp] at h
    simp [h.1, h.2.1, hsilent, htaken]
  | talking t =>
    simp only [hp] at h
    simp [h.1, h.2]
  | writing t handler =>
    simp only [hp] at h
    simp [h.1, h.2]
  | closing =>
    simp only [hp] at h
    simp [h.1]

/-- Open, and not done with its work. -/
def IsOpen (c : Connection R E) : Prop :=
  (∃ t, c.phase = .talking t) ∨ ∃ t handler, c.phase = .writing t handler

theorem flags_of_isOpen (hopen : c.IsOpen) :
    c.Flags history late ↔ ¬ Silent history ∧ ¬ late := by
  rcases hopen with ⟨t, hphase⟩ | ⟨t, handler, hphase⟩ <;> rw [Flags, hphase]

theorem flags_of_closing (hphase : c.phase = .closing) :
    c.Flags history late ↔ ¬ Silent history ∧ (c.busy = true ↔ late) := by
  rw [Flags, hphase]

/-- A connection clears its flag when it is done with its work. -/
theorem flags_of_cleared (hphase : c.phase = .closing) (hbusy : c.busy = false)
    (hcalled : ¬ Silent history) (hlate : ¬ late) : c.Flags history late := by
  rw [flags_of_closing hphase, hbusy]
  exact ⟨hcalled, by simpa using hlate⟩

end Flags

end Connection

namespace Link

open Connection

variable {R E : Type} {l l' : Link R E} {t : Talk R E} {now : Nat} {effects : List (Effect R E)}

/-- An open connection stays open, or clears its flag. -/
theorem TalkStep.open_or_cleared (hp : l.connection.phase = .talking t)
    (h : l.TalkStep t now l' effects) :
    l'.connection.IsOpen ∨ l'.connection.phase = .closing ∧ l'.connection.busy = false := by
  cases h with
  | unwritable => exact .inr ⟨rfl, rfl⟩
  | failed => exact .inr ⟨rfl, rfl⟩
  | givenUp => exact .inl (.inl ⟨t, hp⟩)
  | read => exact .inl (.inl ⟨t, hp⟩)
  | @wrote _ handler => exact .inl (.inr ⟨_, handler, rfl⟩)
  | _ => exact .inl (.inl ⟨_, rfl⟩)

theorem WriteStep.open_or_cleared {handler : R} (h : l.WriteStep t handler now l' effects) :
    l'.connection.IsOpen ∨ l'.connection.phase = .closing ∧ l'.connection.busy = false := by
  cases h with
  | armed => exact .inl (.inl ⟨_, rfl⟩)
  | unwritable => exact .inr ⟨rfl, rfl⟩
  | brokenOff => exact .inr ⟨rfl, rfl⟩

/-- What a step of a connection makes of what its flag tells. -/
theorem Move.flags {history : List (Event R E)} {late : Prop}
    (h : l.connection.Flags history late) (move : l.Move now l' effects) :
    l'.connection.Flags (history ++ effects.map .did) late := by
  have hcalled : ∀ e : Effect R E, e ∈ effects → (Event.did e).isCall = true →
      ¬ Silent (history ++ effects.map .did) := by
    intro e he hcall hsilent
    have hquiet := hsilent (.did e) (List.mem_append_right _ (List.mem_map_of_mem he))
    rw [hcall] at hquiet
    cases hquiet
  have hstays : ¬ Silent history → ¬ Silent (history ++ effects.map .did) :=
    fun hnot hsilent => hnot (silent_append.1 hsilent).1
  have hgoes : l.connection.IsOpen →
      l'.connection.IsOpen ∨ l'.connection.phase = .closing ∧ l'.connection.busy = false →
      l'.connection.Flags (history ++ effects.map .did) late := by
    intro hopen hnext
    obtain ⟨hnot, hlate⟩ := (flags_of_isOpen hopen).1 h
    rcases hnext with hopen' | ⟨hclosing, hbusy⟩
    · exact (flags_of_isOpen hopen').2 ⟨hstays hnot, hlate⟩
    · exact flags_of_cleared hclosing hbusy (hstays hnot) hlate
  cases move with
  | opened phase =>
    rw [Flags, phase] at h
    exact (flags_of_isOpen (.inl ⟨_, rfl⟩)).2 ⟨hcalled .opened List.mem_cons_self rfl, h.2.1⟩
  | @refused failure phase =>
    rw [Flags, phase] at h
    exact flags_of_cleared rfl rfl (hcalled (.failed failure) List.mem_cons_self rfl) h.2.1
  | talked phase _ step => exact hgoes (.inl ⟨_, phase⟩) (step.open_or_cleared phase)
  | wrote phase step => exact hgoes (.inr ⟨_, _, phase⟩) step.open_or_cleared
  | stopped phase => exact hgoes (.inl ⟨_, phase⟩) (.inr ⟨rfl, rfl⟩)
  | finished done =>
    have hsilent : Silent ((l.connection.waiting.map (Effect.dropped (E := E))).map .did) :=
      isCall_of_silent (Link.isSilent_of_dropped (by simp))
    show l.connection.busy = true ↔ _
    rw [accepted_append, accepted_did, List.append_nil, silent_append]
    rcases done with ⟨phase, -⟩ | phase
    · rw [Flags, phase] at h
      obtain ⟨hquiet, hlate, hflag⟩ := h
      simp only [hflag, hquiet, hsilent, hlate, and_true, or_false]
    · obtain ⟨hnot, hflag⟩ := (flags_of_closing phase).1 h
      simp only [hflag, hnot, false_and, and_false, false_or]

end Link

namespace Connection

variable {R E : Type}

namespace Run

variable {r : Run R E} {late : Prop}

/-- The owner hands a request over, which is taken or refused. -/
theorem flags_send (h : r.link.connection.Flags r.history late) (request : Request) (handler : R) :
    (r.act (.send request handler)).link.connection.Flags (r.act (.send request handler)).history
      (late ∨ r.IsLate (.send request handler)) := by
  rcases r.link.connection.send_cases request handler with
    ⟨failure, hs⟩ | ⟨hidle, hended, hbusy, hs⟩
  · have hact : r.act (.send request handler) = r.note [.refused handler failure] := by
      simp [act, hs]
    have hlate : ¬ r.IsLate (.send request handler) := by
      rintro ⟨request', handler', -, hclosing, hfree⟩
      have htaken : ∃ c', r.link.connection.send request handler = .ok c' := by
        simp [send, hclosing, hfree]
      rw [hs] at htaken
      obtain ⟨c', hok⟩ := htaken
      cases hok
    rw [hact, history_note, propext (or_iff_left hlate)]
    exact h.refuse handler failure
  · have hact : r.act (.send request handler) = (r.withConnection { r.link.connection with
        busy := true
        inbox := r.link.connection.inbox ++ [.send request handler] }).note
          [.accepted handler] := by
      simp [act, hs]
    have hlate : r.IsLate (.send request handler) ↔ r.link.connection.phase = .closing := by
      constructor
      · rintro ⟨-, -, -, hclosing, -⟩
        exact hclosing
      · exact fun hclosing => ⟨request, handler, rfl, hclosing, hbusy⟩
    rw [hact, history_note, hlate]
    refine h.take hidle hended ?_ ?_ handler <;> rfl

/-- What the flag tells is kept by a step of the connection. -/
theorem flags_step (h : r.link.connection.Flags r.history late) :
    (r.act .step).link.connection.Flags (r.act .step).history late := by
  show (r.step?.getD r).link.connection.Flags (r.step?.getD r).history late
  cases hs : r.link.step? r.clock with
  | none =>
    have hnone : r.step? = none := by simp [step?, hs]
    rwa [hnone]
  | some done =>
    have hsome : r.step? = some ({ r with link := done.1 }.note (done.2.map .did)) := by
      simp [step?, hs]
    rw [hsome]
    show done.1.connection.Flags ({ r with link := done.1 }.note (done.2.map .did)).history late
    rw [history_note]
    exact Link.Move.flags h (Link.move_of_step? hs)

theorem flags_connect (h : r.link.connection.Flags r.history late) :
    (r.act .connect).link.connection.Flags (r.act .connect).history late := by
  rcases r.act_connect with ⟨hphase, hact⟩ | hact
  · -- the flag tells the same on the way to the server as before
    unfold Flags at h
    rw [hphase] at h
    rw [hact]
    exact h
  · rwa [hact]

/-- **What the flag tells is kept by every act.** -/
theorem flags_act (h : r.link.connection.Flags r.history late) (a : Act R E) :
    (r.act a).link.connection.Flags (r.act a).history (late ∨ r.IsLate a) := by
  by_cases hsend : ∃ request handler, a = .send request handler
  · obtain ⟨request, handler, rfl⟩ := hsend
    exact flags_send h request handler
  · have hlate : ¬ r.IsLate a := by
      rintro ⟨request, handler, heq, -⟩
      exact hsend ⟨request, handler, heq⟩
    rw [propext (or_iff_left hlate)]
    cases a with
    | send request handler => exact absurd ⟨request, handler, rfl⟩ hsend
    | connect => exact flags_connect h
    | step => exact flags_step h
    | subscribe event handler => exact h.alike (r.link.connection.alike_subscribe event handler)
    | _ => exact h

/-- **What the flag tells**, in every run. -/
theorem flags_after (timeout : Nat) (acts : List (Act R E)) :
    (after timeout acts).link.connection.Flags (after timeout acts).history
      (Late timeout acts) := by
  induction acts using List.reverseRecOn with
  | nil =>
    refine ⟨by simp [Silent, history, after, all, start], ?_, ?_⟩
    · rintro ⟨before, request, handler, later, hsplit, -⟩
      simp at hsplit
    · simp [after, all, start, Link.new, Connection.new, history, Connection.accepted]
  | append_singleton acts a ih =>
    rw [late_concat, after_concat]
    exact flags_act ih a

/-! ### A connection that writes -/

/-- **A connection does not stop while its transport takes nothing of what it writes**, whatever its
owner, the server and the clock do: it is not closed, and no time runs for the request. -/
theorem writing_all_of_stalled {t : Talk R E} {handler : R}
    (hphase : r.link.connection.phase = .writing t handler) (hfault : r.link.writeFault = none)
    (hstalled : r.link.stalled = true) {acts : List (Act R E)}
    (hacts : ∀ a ∈ acts, a ≠ .resume ∧ ∀ reason, a ≠ .breakWrites reason) :
    (r.all acts).link.connection.phase = .writing t handler := by
  induction acts generalizing r with
  | nil => exact hphase
  | cons a acts ih =>
    have hrest := fun a' ha' => hacts a' (List.mem_cons_of_mem a ha')
    obtain ⟨hresume, hbreak⟩ := hacts a List.mem_cons_self
    show ((r.act a).all acts).link.connection.phase = .writing t handler
    cases a with
    | connect =>
      have hact : r.act .connect = r := by simp [act, connect, hphase]
      rw [hact]
      exact ih hphase hfault hstalled hrest
    | send request handler' =>
      rcases r.link.connection.send_cases request handler' with ⟨failure, hs⟩ | ⟨-, -, -, hs⟩
      · have hact : r.act (.send request handler') = r.note [.refused handler' failure] := by
          simp [act, hs]
        rw [hact]
        exact ih hphase hfault hstalled hrest
      · have hact : r.act (.send request handler') = (r.withConnection { r.link.connection with
            busy := true
            inbox := r.link.connection.inbox ++ [.send request handler'] }).note
              [.accepted handler'] := by
          simp [act, hs]
        rw [hact]
        exact ih hphase hfault hstalled hrest
    | subscribe event handler' =>
      exact ih ((r.link.connection.alike_subscribe event handler').phase.trans hphase) hfault
        hstalled hrest
    | resume => exact absurd rfl hresume
    | breakWrites reason => exact absurd rfl (hbreak reason)
    | stall => exact ih hphase hfault rfl hrest
    | step =>
      have hnone : r.link.step? r.clock = none :=
        (Link.step?_eq_none_of_writing hphase).2 ⟨hfault, hstalled⟩
      have hact : r.act .step = r := by simp [act, step?, hnone]
      rw [hact]
      exact ih hphase hfault hstalled hrest
    | _ => exact ih hphase hfault hstalled hrest

/-! ### A connection that has ended -/

/-- **A connection that has ended stays so, and so does its flag.** -/
theorem act_of_ended (h : r.link.connection.phase = .ended) (a : Act R E) :
    (r.act a).link.connection.phase = .ended ∧
      (r.act a).link.connection.busy = r.link.connection.busy := by
  have hdid := r.did_act a
  generalize r.act a = r' at hdid
  cases hdid with
  | connected phase =>
    rw [h] at phase
    cases phase
  | accepted _ ended => exact absurd h ended
  | refused => exact ⟨h, rfl⟩
  | aside same => exact ⟨same.alike.phase.trans h, same.alike.busy⟩
  | moved step => simp [Link.step?, h] at step

theorem all_of_ended (h : r.link.connection.phase = .ended) (acts : List (Act R E)) :
    (r.all acts).link.connection.phase = .ended ∧
      (r.all acts).link.connection.busy = r.link.connection.busy := by
  induction acts generalizing r with
  | nil => exact ⟨h, rfl⟩
  | cons a acts ih =>
    obtain ⟨hended, hbusy⟩ := act_of_ended h a
    obtain ⟨hended', hbusy'⟩ := ih hended
    exact ⟨hended', hbusy'.trans hbusy⟩

end Run

theorem send_of_ended {c : Connection R E} (h : c.phase = .ended) (request : Request)
    (handler : R) : c.send request handler =
      .error (if c.busy then .requestInFlight else .notConnected) := by
  cases hb : c.busy <;> simp [send, h, hb]

namespace Run

/-- **A connection that has stopped says so, unless it is left with a request.** Whatever happens
later, it stays as it is and takes nothing: what is sent is refused because the connection has
stopped, or, if the flag is set, because it is busy. The flag is set exactly if a request was taken
on the way to the server, which was then closed, or when the connection was done with its work. -/
theorem stopped_connection_answers (timeout : Nat) (acts : List (Act R E))
    (hended : (after timeout acts).link.connection.phase = .ended) :
    ((after timeout acts).link.connection.busy = true ↔ Stranded timeout acts) ∧
    ∀ more, (after timeout (acts ++ more)).link.connection.phase = .ended ∧
      (after timeout (acts ++ more)).link.connection.busy =
        (after timeout acts).link.connection.busy ∧
      ∀ request handler, (after timeout (acts ++ more)).link.connection.send request handler =
        .error (if (after timeout acts).link.connection.busy then .requestInFlight
          else .notConnected) := by
  refine ⟨?_, fun more => ?_⟩
  · have hflags := flags_after timeout acts
    rw [Flags, hended] at hflags
    refine hflags.trans ⟨?_, ?_⟩
    · rintro (⟨htaken, hsilent⟩ | hlate)
      · exact .onTheWay htaken hsilent
      · exact .late hlate
    · rintro (⟨htaken, hsilent⟩ | hlate)
      · exact .inl ⟨htaken, hsilent⟩
      · exact .inr hlate
  · rw [after_append]
    obtain ⟨hstays, hbusy⟩ := all_of_ended hended more
    exact ⟨hstays, hbusy, fun request handler => hbusy ▸ send_of_ended hstays request handler⟩

/-- A server that does not let a connection in, which has a request in its inbox. -/
def sampleRefusal : List (Act Nat Nat) :=
  [.connect, .send (.named "listPrinter") 1, .offer (.error (.webSocket "refused")), .step, .step]

theorem sampleRefusal_answers :
    (after 500 sampleRefusal).link.connection.phase = .ended ∧ ¬ Stranded 500 sampleRefusal ∧
      ∀ more, (after 500 (sampleRefusal ++ more)).link.connection.busy = false ∧
        ∀ request handler,
          (after 500 (sampleRefusal ++ more)).link.connection.send request handler =
            .error .notConnected := by
  have hended : (after 500 sampleRefusal).link.connection.phase = .ended := by decide +kernel
  have hfree : (after 500 sampleRefusal).link.connection.busy = false := by decide +kernel
  obtain ⟨hflag, hlater⟩ := stopped_connection_answers 500 sampleRefusal hended
  refine ⟨hended, fun h => absurd (hflag.2 h) (by simp [hfree]), fun more => ?_⟩
  obtain ⟨-, hbusy, hsend⟩ := hlater more
  rw [hfree] at hbusy hsend
  exact ⟨hbusy, hsend⟩

/-- An owner that closes a connection on its way to the server, with a request in its inbox. -/
def sampleGivenUp : List (Act Nat Nat) :=
  [.connect, .send (.named "listPrinter") 1, .close, .step]

/-- An owner that sends a request between the end of the work and the end of the connection. -/
def sampleLateRequest : List (Act Nat Nat) :=
  [.connect, .offer (.ok ()), .step, .close, .step, .send (.named "listPrinter") 1, .step]

/-- **A connection that has stopped may say that it is busy**, and refuse a request for that. -/
theorem stopped_connections_busy :
    ((after 500 sampleGivenUp).link.connection.phase = .ended ∧
      (after 500 sampleGivenUp).link.connection.busy = true ∧
      (after 500 sampleGivenUp).link.connection.send (.named "listPrinter") 2 =
        .error .requestInFlight) ∧
    (after 500 sampleLateRequest).link.connection.phase = .ended ∧
      (after 500 sampleLateRequest).link.connection.busy = true ∧
      (after 500 sampleLateRequest).link.connection.send (.named "listPrinter") 2 =
        .error .requestInFlight := by
  decide +kernel

end Run

end Connection

end PrintClient
