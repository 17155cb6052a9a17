import PrintClient.Proofs.Connection.Moves

/-!
# What a step does to requests

Whether a connection takes a request is told by a flag that its owner sets; what becomes of the
request is told by the inbox, by what is being written, and by the slot for the request that awaits
its response. While the connection is on its way to the server or open, they agree: the flag is set
when there is one request in one of these places, and there never are two.

* `Connection.outstanding`: the requests that were accepted and have no outcome;
* `Connection.IsExact`, `isExact_after`: the flag counts them;
* `Connection.writing?`, `slot?`, `lastId`: the request that is being written, the one that awaits
  its response, and its number;
* `Link.Deed`, `Move.deed`: what a step does to requests;
* `Run.Handed`, `Did.handed_or_moved`: what everything else does to requests;
* `outstanding_of_ended`: a connection that has ended has given everything up.
-/

namespace PrintClient

namespace Connection

variable {R E : Type}

/-- The handlers of the requests that were accepted and have no outcome, in the order of their
acceptance. -/
def outstanding (c : Connection R E) : List R := c.awaited ++ c.waiting

/-- The flag tells how many requests have no outcome. A connection that is done with its work has
cleared the flag and still has to give up what is in the inbox. -/
def IsExact (c : Connection R E) : Prop := ¬ c.IsOver → c.outstanding.length = c.busy.toNat

/-- The request that awaits its response. -/
def slot? (c : Connection R E) : Option (Pending R) :=
  match c.phase with
  | .talking t => t.pending
  | _ => none

/-- The handler of the request that is being written. -/
def writing? (c : Connection R E) : Option R :=
  match c.phase with
  | .writing _ handler => some handler
  | _ => none

/-- The number of the last request that was handed to the transport. -/
def lastId (c : Connection R E) : Nat :=
  match c.phase with
  | .talking t => t.lastId
  | .writing t _ => t.lastId
  | _ => 0

theorem waiting_eq_requests (c : Connection R E) : c.waiting = c.requests.map Prod.snd := by
  rw [waiting, requests, List.map_filterMap]
  congr 1
  funext command
  cases command <;> rfl

theorem not_isOver_of_talking {c : Connection R E} {t : Talk R E} (h : c.phase = .talking t) :
    ¬ c.IsOver := by
  simp [IsOver, h]

theorem slot?_of_talking {c : Connection R E} {t : Talk R E} (h : c.phase = .talking t) :
    c.slot? = t.pending := by
  simp [slot?, h]

theorem lastId_of_talking {c : Connection R E} {t : Talk R E} (h : c.phase = .talking t) :
    c.lastId = t.lastId := by
  simp [lastId, h]

theorem awaited_eq (c : Connection R E) :
    c.awaited = c.writing?.toList ++ (c.slot?.map Pending.handler).toList := by
  cases hp : c.phase <;> simp [awaited, writing?, slot?, hp, Talk.awaited]

theorem slot?_of_awaited {c : Connection R E} (h : c.awaited = []) : c.slot? = none := by
  rw [awaited_eq] at h
  simpa using (List.append_eq_nil_iff.1 h).2

theorem writing?_of_awaited {c : Connection R E} (h : c.awaited = []) : c.writing? = none := by
  rw [awaited_eq] at h
  simpa using (List.append_eq_nil_iff.1 h).1

/-- A connection that writes awaits no response yet. -/
theorem slot?_of_writing? {c : Connection R E} {handler : R} (h : c.writing? = some handler) :
    c.slot? = none := by
  cases hp : c.phase <;> simp_all [writing?, slot?]

theorem writing?_of_slot? {c : Connection R E} {p : Pending R} (h : c.slot? = some p) :
    c.writing? = none := by
  cases hp : c.phase <;> simp_all [writing?, slot?]

theorem writing?_of_talking {c : Connection R E} {t : Talk R E} (h : c.phase = .talking t) :
    c.writing? = none := by
  simp [writing?, h]

theorem not_isOver_of_writing {c : Connection R E} {t : Talk R E} {handler : R}
    (h : c.phase = .writing t handler) : ¬ c.IsOver := by
  simp [IsOver, h]

theorem awaited_of_talking {c : Connection R E} {t : Talk R E} (h : c.phase = .talking t) :
    c.awaited = t.awaited := by
  simp [awaited, h]

theorem awaited_of_opening {c : Connection R E} (h : c.phase = .opening) : c.awaited = [] := by
  simp [awaited, h]

theorem awaited_of_isOver {c : Connection R E} (h : c.IsOver) : c.awaited = [] := by
  rcases h with hp | hp <;> simp [awaited, hp]

theorem slot?_of_isOver {c : Connection R E} (h : c.IsOver) : c.slot? = none :=
  slot?_of_awaited (awaited_of_isOver h)

theorem Alike.outstanding {c c' : Connection R E} (h : c.Alike c') :
    c'.outstanding = c.outstanding := by
  simp only [Connection.outstanding, waiting_eq_requests, h.requests, awaited, h.phase]

/-- A request that is taken waits behind all others. -/
theorem outstanding_send (c : Connection R E) (request : Request) (handler : R) :
    outstanding { c with busy := true, inbox := c.inbox ++ [.send request handler] } =
      c.outstanding ++ [handler] := by
  simp [Connection.outstanding, awaited, waiting, Command.handler?]

theorem isExact_of_isOver {c : Connection R E} (h : c.IsOver) : c.IsExact := fun hn => absurd h hn

/-- Of an open connection the flag counts the request in the slot and those in the inbox. -/
theorem isExact_iff_of_talking {c : Connection R E} {t : Talk R E} (h : c.phase = .talking t) :
    c.IsExact ↔ t.awaited.length + c.waiting.length = c.busy.toNat := by
  simp [IsExact, not_isOver_of_talking h, Connection.outstanding, awaited_of_talking h]

end Connection

namespace Link

open Connection

variable {R E : Type} {l l' : Link R E} {t : Talk R E} {now : Nat} {effects : List (Effect R E)}

/-- A request that goes out of the inbox, or out of the writing into the slot, still counts. -/
theorem isExact_of_outstanding {c c' : Connection R E} (hover : ¬ c.IsOver)
    (hout : c'.outstanding = c.outstanding) (hbusy : c'.busy = c.busy) (h : c.IsExact) :
    c'.IsExact := by
  intro _
  rw [hout, hbusy]
  exact h hover

theorem TalkStep.isExact (hp : l.connection.phase = .talking t) (hl : l.connection.IsExact)
    (h : l.TalkStep t now l' effects) : l'.connection.IsExact := by
  rw [isExact_iff_of_talking hp] at hl
  cases h with
  | subscribed inbox =>
    rw [isExact_iff_of_talking rfl]
    simpa [Connection.waiting, inbox, List.filterMap_cons, Command.handler?, Talk.awaited] using hl
  | wrote inbox pending =>
    refine isExact_of_outstanding (not_isOver_of_talking hp) ?_ rfl
      ((isExact_iff_of_talking hp).2 hl)
    simp [Connection.outstanding, awaited, hp, Talk.awaited, pending, waiting, inbox,
      Command.handler?]
  | givenUp inbox pending =>
    -- Two requests are more than the flag can count.
    simp only [Connection.waiting, inbox, pending, Talk.awaited, List.filterMap_cons,
      Command.handler?, Option.map_some, Option.toList_some, List.length_cons,
      List.length_nil] at hl
    have := l.connection.busy.toNat_le
    omega
  | unwritable => exact isExact_of_isOver (.inl rfl)
  | read => exact (isExact_iff_of_talking hp).2 hl
  | answered inbox =>
    rw [isExact_iff_of_talking rfl]
    simp [Connection.waiting, inbox, Talk.awaited]
  | failed => exact isExact_of_isOver (.inl rfl)
  | expired inbox =>
    rw [isExact_iff_of_talking rfl]
    simp [Connection.waiting, inbox, Talk.awaited]

theorem WriteStep.isExact {handler : R} (hp : l.connection.phase = .writing t handler)
    (hl : l.connection.IsExact) (h : l.WriteStep t handler now l' effects) :
    l'.connection.IsExact := by
  cases h with
  | armed =>
    refine isExact_of_outstanding (not_isOver_of_writing hp) ?_ rfl hl
    simp [Connection.outstanding, awaited, hp, Talk.awaited, waiting]
  | unwritable => exact isExact_of_isOver (.inl rfl)
  | brokenOff => exact isExact_of_isOver (.inl rfl)

theorem Move.isExact (hl : l.connection.IsExact) (h : l.Move now l' effects) :
    l'.connection.IsExact := by
  cases h with
  | opened phase =>
    have hover : ¬ l.connection.IsOver := by simp [IsOver, phase]
    have hcount := hl hover
    rw [Connection.outstanding, awaited_of_opening phase, List.nil_append] at hcount
    rw [isExact_iff_of_talking rfl]
    simpa [Talk.awaited, Talk.start, Connection.waiting] using hcount
  | refused => exact isExact_of_isOver (.inl rfl)
  | talked phase _ step => exact step.isExact phase hl
  | wrote phase step => exact step.isExact phase hl
  | stopped => exact isExact_of_isOver (.inl rfl)
  | finished => exact isExact_of_isOver (.inr rfl)

end Link

namespace Connection

variable {R E : Type}

namespace Run

theorem Did.isExact {r r' : Run R E} (hr : r.link.connection.IsExact) (h : r.Did r') :
    r'.link.connection.IsExact := by
  cases h with
  | connected phase =>
    intro _
    have hcount := hr (by simp [IsOver, phase])
    simpa [withConnection, Connection.outstanding, awaited, phase, Connection.waiting] using hcount
  | @accepted request handler _ _ free =>
    intro hover
    have hcount : r.link.connection.outstanding.length = 0 := by simpa [free] using hr hover
    show (Connection.outstanding { r.link.connection with
        busy := true
        inbox := r.link.connection.inbox ++ [.send request handler] }).length = 1
    rw [outstanding_send, List.length_append, hcount]
    rfl
  | refused => exact hr
  | aside same =>
    intro hover
    rw [same.alike.outstanding, same.alike.busy]
    exact hr fun h => hover (same.alike.isOver h)
  | moved _ move => exact move.isExact hr

/-- **The flag tells how many requests have no outcome**, in every run. -/
theorem isExact_after (timeout : Nat) (acts : List (Act R E)) :
    (after timeout acts).link.connection.IsExact := by
  refine after_induction timeout acts ?_ fun r _ a _ hr => (r.did_act a).isExact hr
  intro _
  rfl

end Run

/-- A request that reaches its turn to be written finds the slot empty. -/
theorem IsExact.pending_eq_none {c : Connection R E} {t : Talk R E} (hc : c.IsExact)
    (hp : c.phase = .talking t) {request : Request} {handler : R} {rest : List (Command R E)}
    (hi : c.inbox = .send request handler :: rest) : t.pending = none := by
  rw [isExact_iff_of_talking hp] at hc
  cases hpend : t.pending with
  | none => rfl
  | some p =>
    simp only [Connection.waiting, hi, hpend, Talk.awaited, List.filterMap_cons, Command.handler?,
      Option.map_some, Option.toList_some, List.length_cons, List.length_nil] at hc
    have := c.busy.toNat_le
    omega

/-! ### What becomes of requests -/

/-- Whether an effect is about a request, or tells of a failure. -/
def Effect.isOfRequest : Effect R E → Bool
  | .wrote .. | .armed .. | .answered .. | .dropped _ | .failed _ => true
  | _ => false

/-- The handler that is given up. -/
def Effect.dropped? : Effect R E → Option R
  | .dropped handler => some handler
  | _ => none

@[simp] theorem filterMap_dropped? (handlers : List R) :
    (handlers.map (Effect.dropped (E := E))).filterMap Effect.dropped? = handlers := by
  rw [List.filterMap_map]
  exact List.filterMap_some

theorem outstanding_of_talking {c : Connection R E} {t : Talk R E} (h : c.phase = .talking t) :
    c.outstanding = t.awaited ++ c.waiting := by
  rw [Connection.outstanding, awaited_of_talking h]

end Connection

namespace Link

open Connection

variable {R E : Type} {l l' : Link R E} {t : Talk R E} {now : Nat} {effects : List (Effect R E)}

/-- What a step does to the requests of a connection. -/
inductive Deed (l : Link R E) (now : Nat) (l' : Link R E) (effects : List (Effect R E)) : Prop
  /-- It does nothing, and reads no response for the request in the slot. -/
  | passed (working : ¬ l.connection.IsOver) (working' : ¬ l'.connection.IsOver)
      (slot : l'.connection.slot? = l.connection.slot?)
      (writing : l.connection.writing? = none) (writing' : l'.connection.writing? = none)
      (lastId : l'.connection.lastId = l.connection.lastId)
      (outstanding : l'.connection.outstanding = l.connection.outstanding)
      (aside : ∀ e ∈ effects, e.isOfRequest = false)
      (unmatched : ∀ p frame data, l.connection.slot? = some p → .read (.text frame) ∈ effects →
        Frame.response? frame ≠ some (p.callbackId, data))
  | wrote (request : Request) {handler : R} {others : List R} (working : ¬ l.connection.IsOver)
      (working' : ¬ l'.connection.IsOver) (free : l.connection.awaited = [])
      (first : l.connection.outstanding = handler :: others)
      (writing : l'.connection.writing? = some handler)
      (lastId : l'.connection.lastId = l.connection.lastId + 1)
      (outstanding : l'.connection.outstanding = l.connection.outstanding)
      (effects_eq : effects = [.wrote (l.connection.lastId + 1) request handler])
  | armed {handler : R} (working : ¬ l.connection.IsOver) (working' : ¬ l'.connection.IsOver)
      (writing : l.connection.writing? = some handler)
      (slot : l'.connection.slot? =
        some ⟨l.connection.lastId, handler, now + l.connection.timeout⟩)
      (lastId : l'.connection.lastId = l.connection.lastId)
      (outstanding : l'.connection.outstanding = l.connection.outstanding)
      (effects_eq : effects = [.armed l.connection.lastId handler])
  | answered {p : Pending R} {frame : String} {data : Json} (working : ¬ l.connection.IsOver)
      (working' : ¬ l'.connection.IsOver) (slot : l.connection.slot? = some p)
      (response : Frame.response? frame = some (p.callbackId, data))
      (free : l'.connection.awaited = []) (lastId : l'.connection.lastId = l.connection.lastId)
      (outstanding : l.connection.outstanding = p.handler :: l'.connection.outstanding)
      (effects_eq : effects = [.read (.text frame), .answered p.handler data])
  | expired {p : Pending R} (working : ¬ l.connection.IsOver)
      (working' : ¬ l'.connection.IsOver) (slot : l.connection.slot? = some p)
      (due : p.deadline ≤ now) (inbox : l.connection.inbox = []) (unread : l.unread = [])
      (free : l'.connection.awaited = []) (lastId : l'.connection.lastId = l.connection.lastId)
      (outstanding : l.connection.outstanding = p.handler :: l'.connection.outstanding)
      (effects_eq : effects =
        [.failed (.timeout p.callbackId (min l.connection.timeout longestReport)),
          .dropped p.handler])
  /-- The connection is done with its work. It gives up the request in the slot, and maybe others.
  -/
  | finished (others : List R) (done : l'.connection.IsOver)
      (outstanding : l.connection.outstanding =
        l.connection.awaited ++ others ++ l'.connection.outstanding)
      (given : effects.filterMap Effect.dropped? = l.connection.awaited ++ others)
      (last : ∀ e ∈ effects, (∃ i, e = .read i) ∨ (∃ handler, e = .dropped handler) ∨
        ∃ failure, e = .failed failure ∧
          (failure.kind ≠ .timeout ∨ l.outcome = some (.error failure)))

theorem TalkStep.deed (hp : l.connection.phase = .talking t) (hl : l.connection.IsExact)
    (hs : l.step? now = some (l', effects)) (h : l.TalkStep t now l' effects) :
    l.Deed now l' effects := by
  have hkind := kind_of_failed hp h hs
  have hworking := not_isOver_of_talking hp
  have hslot := slot?_of_talking hp
  have hlast := lastId_of_talking hp
  have hout := outstanding_of_talking hp
  cases h with
  | subscribed inbox =>
    refine .passed hworking (not_isOver_of_talking rfl) hslot.symm (writing?_of_talking hp) rfl
      hlast.symm ?_ (by simp) (by simp)
    rw [hout, outstanding_of_talking rfl]
    simp [Talk.awaited, waiting, inbox, List.filterMap_cons, Command.handler?]
  | @wrote request handler rest inbox pending =>
    have hfirst : l.connection.outstanding = handler :: rest.filterMap Command.handler? := by
      rw [hout]
      simp [Talk.awaited, pending, waiting, inbox, Command.handler?]
    have hfree : l.connection.awaited = [] := by
      simp [awaited_of_talking hp, Talk.awaited, pending]
    refine .wrote request hworking (not_isOver_of_writing rfl) hfree hfirst rfl ?_ ?_ ?_
    · rw [hlast]
      rfl
    · rw [hfirst]
      rfl
    · rw [hlast]
  | givenUp inbox pending =>
    rw [hl.pending_eq_none hp inbox] at pending
    cases pending
  | @unwritable _ handler rest reason inbox pending =>
    have hnone : l.connection.awaited = [] := by
      rw [awaited_of_talking hp, Talk.awaited, pending]
      rfl
    refine .finished [handler] (.inl rfl) ?_ ?_ ?_
    · rw [Connection.outstanding, hnone]
      simp [Connection.outstanding, awaited, waiting, inbox, Command.handler?]
    · rw [hnone]
      rfl
    · simp [Failure.kind]
  | @read i rest deliveries _ _ unmatched delivered =>
    have hwriting := writing?_of_talking hp
    refine .passed hworking hworking rfl hwriting hwriting rfl rfl ?_ ?_
    · intro e he
      rcases List.mem_cons.1 he with rfl | he
      · rfl
      · obtain ⟨_, _, _, rfl⟩ := delivered e he
        rfl
    · intro p frame data hpend hread hr
      rcases List.mem_cons.1 hread with hi | hmem
      · cases hi
        exact (unmatched frame _ data rfl hr).2 p (hslot.symm.trans hpend) rfl
      · obtain ⟨_, _, _, he⟩ := delivered _ hmem
        cases he
  | @answered frame rest data p inbox _ pending response =>
    refine .answered hworking (not_isOver_of_talking rfl) (hslot.trans pending) response rfl
      hlast.symm ?_ rfl
    rw [hout, outstanding_of_talking rfl]
    simp [Talk.awaited, pending, waiting]
  | @failed i rest failure inbox unread =>
    refine .finished [] (.inl rfl) ?_ ?_ ?_
    · rw [List.append_nil, awaited_of_talking hp, hout]
      simp [Connection.outstanding, awaited, waiting]
    · rw [List.filterMap_cons_none rfl, List.filterMap_append, filterMap_dropped?,
        awaited_of_talking hp]
      rfl
    · intro e he
      rcases List.mem_cons.1 he with rfl | he
      · exact .inl ⟨i, rfl⟩
      · rcases List.mem_append.1 he with he | he
        · obtain ⟨handler, -, rfl⟩ := List.mem_map.1 he
          exact .inr (.inl ⟨handler, rfl⟩)
        · obtain rfl := List.mem_singleton.1 he
          refine .inr (.inr ⟨failure, rfl, .inl ?_⟩)
          rcases hkind failure (by simp) with hne | ⟨-, hu, -⟩
          · exact hne
          · rw [unread] at hu
            cases hu
  | @expired p inbox unread pending due =>
    refine .expired hworking (not_isOver_of_talking rfl) (hslot.trans pending) due inbox unread rfl
      hlast.symm ?_ rfl
    rw [hout, outstanding_of_talking rfl]
    simp [Talk.awaited, pending, waiting]

theorem WriteStep.deed {handler : R} (hp : l.connection.phase = .writing t handler)
    (h : l.WriteStep t handler now l' effects) : l.Deed now l' effects := by
  have hawaited : l.connection.awaited = [handler] := by simp [awaited, hp]
  have hlast : l.connection.lastId = t.lastId := by simp [lastId, hp]
  cases h with
  | armed =>
    have hwriting : l.connection.writing? = some handler := by simp [writing?, hp]
    refine .armed (not_isOver_of_writing hp) (not_isOver_of_talking rfl) hwriting ?_ ?_ ?_ ?_
    · rw [hlast]
      rfl
    · rw [hlast]
      rfl
    · rw [Connection.outstanding, Connection.outstanding, hawaited]
      rfl
    · rw [hlast]
  | @unwritable reason =>
    refine .finished [] (.inl rfl) ?_ ?_ (by simp [Failure.kind])
    · rw [Connection.outstanding, hawaited, List.append_nil]
      rfl
    · rw [hawaited]
      rfl
  | brokenOff =>
    refine .finished [] (.inl rfl) ?_ ?_ (by simp)
    · rw [Connection.outstanding, hawaited, List.append_nil]
      rfl
    · rw [hawaited]
      rfl

/-- **What a step does to requests is one of these.** -/
theorem Move.deed (hl : l.connection.IsExact) (hs : l.step? now = some (l', effects))
    (h : l.Move now l' effects) : l.Deed now l' effects := by
  have hdropped : ∀ handlers : List R, ∀ e ∈ handlers.map (Effect.dropped (E := E)),
      (∃ i, e = .read i) ∨ (∃ handler, e = .dropped handler) ∨ ∃ failure, e = .failed failure ∧
        (failure.kind ≠ .timeout ∨ l.outcome = some (.error failure)) := by
    intro handlers e he
    obtain ⟨handler, -, rfl⟩ := List.mem_map.1 he
    exact .inr (.inl ⟨handler, rfl⟩)
  cases h with
  | opened phase =>
    have hnone : l.connection.awaited = [] := awaited_of_opening phase
    refine .passed (by simp [IsOver, phase]) (not_isOver_of_talking rfl) ?_ ?_ rfl ?_ ?_ ?_
      (by simp)
    · simp [slot?, phase, Talk.start]
    · simp [writing?, phase]
    · simp [lastId, phase, Talk.start]
    · rw [outstanding_of_talking rfl, Connection.outstanding, hnone]
      rfl
    · simp [Effect.isOfRequest]
  | @refused failure phase _ outcome =>
    have hnone : l.connection.awaited = [] := awaited_of_opening phase
    refine .finished [] (.inl rfl) ?_ ?_ ?_
    · rw [Connection.outstanding, hnone]
      simp [Connection.outstanding, awaited, waiting]
    · rw [hnone]
      rfl
    · simp [outcome]
  | talked phase _ talk => exact talk.deed phase hl hs
  | wrote phase step => exact step.deed phase
  | stopped phase =>
    refine .finished [] (.inl rfl) ?_ ?_ (hdropped _)
    · rw [List.append_nil, awaited_of_talking phase, outstanding_of_talking phase]
      simp [Connection.outstanding, awaited, waiting]
    · rw [filterMap_dropped?, awaited_of_talking phase, List.append_nil]
  | finished done =>
    have hnone : l.connection.awaited = [] :=
      done.elim (fun h => awaited_of_opening h.1) fun hp => awaited_of_isOver (.inl hp)
    refine .finished l.connection.waiting (.inr rfl) ?_ ?_ (hdropped _)
    · rw [Connection.outstanding, hnone]
      simp [Connection.outstanding, awaited, waiting]
    · rw [filterMap_dropped?, hnone, List.nil_append]

end Link

namespace Connection

variable {R E : Type}

/-- The requests that were accepted. -/
def accepted (history : List (Event R E)) : List R :=
  history.filterMap fun
    | .accepted handler => some handler
    | _ => none

theorem accepted_append (history more : List (Event R E)) :
    accepted (history ++ more) = accepted history ++ accepted more :=
  List.filterMap_append

theorem accepted_did (effects : List (Effect R E)) : accepted (effects.map .did) = [] := by
  refine List.filterMap_eq_nil_iff.2 fun e he => ?_
  obtain ⟨effect, -, rfl⟩ := List.mem_map.1 he
  rfl

/-- Whether the owner is answered in person. -/
def Event.isReply : Event R E → Bool
  | .accepted _ | .refused .. => true
  | .did _ => false

namespace Run

/-- What everything but steps of the connection does to its requests: some may be accepted. -/
structure Handed (r r' : Run R E) (more : List (Event R E)) : Prop where
  trace : r'.trace = r.trace ++ more.map fun e => (r.clock, e)
  replies : ∀ e ∈ more, e.isReply = true
  isOver : r'.link.connection.IsOver ↔ r.link.connection.IsOver
  slot : r'.link.connection.slot? = r.link.connection.slot?
  writing : r'.link.connection.writing? = r.link.connection.writing?
  lastId : r'.link.connection.lastId = r.link.connection.lastId
  timeout : r'.link.connection.timeout = r.link.connection.timeout
  outstanding : r'.link.connection.outstanding = r.link.connection.outstanding ++ accepted more
  /-- A connection that has ended takes none. -/
  ended : r'.link.connection.phase = .ended → r.link.connection.phase = .ended ∧ accepted more = []

variable {r r' : Run R E} {more : List (Event R E)}

theorem Handed.history (h : r.Handed r' more) : r'.history = r.history ++ more :=
  history_of_trace h.trace

/-- **An act hands requests over, or the connection takes a step.** -/
theorem Did.handed_or_moved (h : r.Did r') :
    (∃ more, r.Handed r' more) ∨ ∃ l' effects, r.link.step? r.clock = some (l', effects) ∧
      r.link.Move r.clock l' effects ∧ r' = { r with link := l' }.note (effects.map .did) := by
  cases h with
  | connected phase =>
    refine .inl ⟨[], by simp [withConnection], by simp, ?_, ?_, ?_, ?_, rfl, ?_, ?_⟩
    · simp [IsOver, withConnection, phase]
    · simp [slot?, withConnection, phase]
    · simp [writing?, withConnection, phase]
    · simp [Connection.lastId, withConnection, phase]
    · simp [Connection.outstanding, awaited, withConnection, phase, waiting, Connection.accepted]
    · simp [withConnection]
  | @accepted request handler _ ended =>
    refine .inl ⟨[.accepted handler], rfl, by simp [Event.isReply], .rfl, rfl, rfl, rfl, rfl,
      ?_, ?_⟩
    · exact outstanding_send _ request handler
    · intro hended
      exact absurd hended ended
  | @refused handler failure =>
    refine .inl ⟨[.refused handler failure], rfl, by simp [Event.isReply], .rfl, rfl, rfl, rfl, rfl,
      ?_, fun hended => ⟨hended, rfl⟩⟩
    simp [note, Connection.accepted]
  | aside same =>
    refine .inl ⟨[], by simp [same.trace], by simp, ?_, ?_, ?_, ?_, same.timeout, ?_,
      fun hended => ⟨same.alike.phase.symm.trans hended, rfl⟩⟩
    · rw [IsOver, IsOver, same.alike.phase]
    · rw [slot?, slot?, same.alike.phase]
    · rw [writing?, writing?, same.alike.phase]
    · rw [Connection.lastId, Connection.lastId, same.alike.phase]
    · simp [same.alike.outstanding, Connection.accepted]
  | moved step move => exact .inr ⟨_, _, step, move, rfl⟩

/-- A connection that has ended has given everything up. -/
theorem outstanding_of_ended (timeout : Nat) (acts : List (Act R E)) :
    (after timeout acts).link.connection.phase = .ended →
      (after timeout acts).link.connection.outstanding = [] := by
  refine after_induction timeout acts
    (P := fun r => r.link.connection.phase = .ended → r.link.connection.outstanding = [])
    (fun _ => rfl) fun r _ a _ hr hended => ?_
  rcases (r.did_act a).handed_or_moved with ⟨more, h⟩ | ⟨l', effects, -, move, heq⟩
  · obtain ⟨hbefore, hnone⟩ := h.ended hended
    rw [h.outstanding, hr hbefore, hnone]
    rfl
  · rw [heq] at hended ⊢
    replace hended : l'.connection.phase = .ended := hended
    show l'.connection.outstanding = []
    cases move with
    | finished => rfl
    | talked phase _ step => cases step <;> simp [phase] at hended
    | wrote _ step => cases step <;> cases hended
    | _ => cases hended

end Run

end Connection

end PrintClient
