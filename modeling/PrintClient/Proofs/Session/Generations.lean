import PrintClient.Proofs.Session.Operations

/-!
# Generations

Every connection of a session has a generation of its own. At most one connection is held, it is the
latest, and it is the only one that is not closed by its owner; all that arrives from the others is
older than the present generation.

* `World.Generations`: the invariant, with the published state and the timer that go with it;
* `Generations.isClosed?_eq_false_iff`: a connection is not closed just when it is held;
* `Generations.mono`: a step that touches none of this keeps it;
* `Generations.act`, `generations_run`: it holds in every run.
-/

namespace PrintClient.Session

variable {H : Type}

namespace World

/-- Whether the connection of a generation is closed by its owner. -/
def isClosed? (w : World H) (g : Nat) : Option Bool :=
  (w.link? g).map fun l => l.connection.cancelled

/-- The connection that is held is the latest and the only one that is not closed by its owner. -/
structure Generations (w : World H) : Prop where
  held : ∀ g, w.session.held = some g → g = w.session.generation ∧ w.isClosed? g = some false
  others : ∀ g b, w.isClosed? g = some b →
    w.session.held = some g ∨ (g < w.session.generation ∧ b = true)
  notices : ∀ p ∈ w.notices, w.session.held = some p.1 ∨ p.1 < w.session.generation
  writes : ∀ g, w.session.generation < g → writesOn g w.history = []
  state : w.session.state = .disconnected ↔ w.session.held = none
  running : w.session.held ≠ none → w.stage = .running
  timer : w.session.reconnectAt ≠ none ↔ w.session.held = none ∧ w.stage = .running

variable {w w' : World H}

theorem isClosed?_of_lookup {links : List (Nat × SessionLink H)} (hw : w'.links = links)
    (hl : ∀ g, links.lookup g = if w.session.held = some g
      then (w.link? g).map Link.close else w.link? g) (g : Nat) :
    w'.isClosed? g = if w.session.held = some g
      then (w.isClosed? g).map fun _ => true else w.isClosed? g := by
  unfold isClosed? link?
  rw [hw, hl g]
  split
  · simp only [Option.map_map]
    rfl
  · rfl

/-- A step that closes and opens no connection. -/
theorem Generations.mono (h : w.Generations) (hheld : w'.session.held = w.session.held)
    (hgen : w'.session.generation = w.session.generation)
    (hlinks : ∀ g, w'.isClosed? g = w.isClosed? g)
    (hnotices : ∀ p ∈ w'.notices, p ∈ w.notices ∨ ∃ b, w.isClosed? p.1 = some b)
    (hwrites : ∀ g, w.session.generation < g → writesOn g w'.history = [])
    (hstate : w'.session.state = .disconnected ↔ w.session.state = .disconnected)
    (htimer : w'.session.reconnectAt = w.session.reconnectAt) (hstage : w'.stage = w.stage) :
    w'.Generations where
  held := by
    intro g hg
    rw [hheld] at hg
    rw [hgen, hlinks]
    exact h.held g hg
  others := by
    intro g b hg
    rw [hlinks] at hg
    rw [hheld, hgen]
    exact h.others g b hg
  notices := by
    intro p hp
    rw [hheld, hgen]
    rcases hnotices p hp with hp | ⟨b, hb⟩
    · exact h.notices p hp
    · exact (h.others p.1 b hb).imp id And.left
  writes := by
    intro g hg
    rw [hgen] at hg
    exact hwrites g hg
  state := by rw [hstate, hheld]; exact h.state
  running := by rw [hheld, hstage]; exact h.running
  timer := by rw [hheld, htimer, hstage]; exact h.timer

/-- The only connection that is not closed is the one that is held. -/
theorem Generations.isClosed?_eq_false_iff (h : w.Generations) {g : Nat} :
    w.isClosed? g = some false ↔ w.session.held = some g := by
  constructor
  · intro hopen
    rcases h.others g false hopen with hheld | ⟨-, hclosed⟩
    · exact hheld
    · cases hclosed
  · exact fun hheld => (h.held g hheld).2

/-- An open connection that nobody wants closed is the one that is held. -/
theorem Generations.held_of_open (h : w.Generations) {g : Nat} {l : SessionLink H}
    (hl : w.link? g = some l) (hopen : l.connection.cancelled = false) : w.session.held = some g :=
  h.isClosed?_eq_false_iff.1 (by rw [isClosed?, hl, Option.map_some, hopen])

/-- The session changes in what is not about connections. -/
theorem Generations.withSession (h : w.Generations) {s : Session H} {commands : List (Command H)}
    (hheld : s.held = w.session.held) (hgen : s.generation = w.session.generation)
    (hstate : s.state = .disconnected ↔ w.session.state = .disconnected)
    (htimer : s.reconnectAt = w.session.reconnectAt) :
    ({ w with session := s, commands } : World H).Generations :=
  h.mono hheld hgen (fun _ => rfl) (fun _ hp => .inl hp) h.writes hstate htimer rfl

/-- More is recorded, but no request is written. -/
theorem Generations.note (h : w.Generations) {es : List (Event H)} (hes : ∀ g, writesOn g es = []) :
    (w.note es).Generations := by
  refine h.mono rfl rfl (fun _ => rfl) (fun _ hp => .inl hp) (fun g hg => ?_) .rfl rfl rfl
  rw [history_note, writesOn_append, h.writes g hg, hes]
  rfl

/-- Every connection is closed by its owner, and none is newer than the present generation. -/
structure AllClosed (w : World H) : Prop where
  closed : ∀ g b, w.isClosed? g = some b → g ≤ w.session.generation ∧ b = true
  notices : ∀ p ∈ w.notices, p.1 ≤ w.session.generation
  writes : ∀ g, w.session.generation < g → writesOn g w.history = []

theorem Generations.allClosed (h : w.Generations) (hh : w.session.held = none) : w.AllClosed where
  closed g b hb := ((h.others g b hb).resolve_left (by simp [hh])).imp Nat.le_of_lt id
  notices p hp := Nat.le_of_lt ((h.notices p hp).resolve_left (by simp [hh]))
  writes := h.writes

/-- Once the connection that was held is closed, all are, and their generations are over. -/
theorem Generations.discard (h : w.Generations) {links : List (Nat × SessionLink H)}
    (hw : w'.links = links)
    (hl : ∀ g, links.lookup g = if w.session.held = some g
      then (w.link? g).map Link.close else w.link? g)
    (hheld : w'.session.held = none) (hgen : w'.session.generation = w.session.generation + 1)
    (hnotices : ∀ p ∈ w'.notices, p ∈ w.notices) (hhistory : w'.history = w.history)
    (hstate : w'.session.state = .disconnected)
    (htimer : w'.session.reconnectAt ≠ none ↔ w'.stage = .running) : w'.Generations where
  held := by simp [hheld]
  others := by
    intro g b hb
    rw [isClosed?_of_lookup hw hl] at hb
    refine .inr ?_
    rw [hgen]
    split at hb
    · rename_i hg
      obtain ⟨hg, hc⟩ := h.held g hg
      rw [hc] at hb
      cases hb
      exact ⟨by omega, rfl⟩
    · rename_i hg
      obtain ⟨hlt, hb⟩ := (h.others g b hb).resolve_left hg
      exact ⟨by omega, hb⟩
  notices := by
    intro p hp
    refine .inr ?_
    rw [hgen]
    rcases h.notices p (hnotices p hp) with hg | hlt
    · -- The connection that was held becomes an older one.
      have := (h.held _ hg).1
      omega
    · omega
  writes := by
    intro g hg
    rw [hgen] at hg
    rw [hhistory]
    exact h.writes g (by omega)
  state := by simp [hstate, hheld]
  running := by simp [hheld]
  timer := by simp [hheld, htimer]

theorem Generations.fail (h : w.Generations) (hr : w.stage = .running) (failure : Failure) :
    (w.fail failure).Generations := by
  obtain ⟨links, hl, hw⟩ := w.fail_eq failure
  rw [hw]
  refine Generations.note ?_ (writesOn_teardown _ failure)
  exact h.discard rfl hl rfl rfl (fun _ hp => hp) rfl rfl (by simp [tornDown, hr])

theorem Generations.stop (h : w.Generations) : w.stop.Generations := by
  obtain ⟨links, hl, hw⟩ := w.stop_eq
  rw [hw]
  refine Generations.note ?_ (writesOn_farewell _ _)
  exact h.discard rfl hl rfl rfl (fun _ hp => by simp at hp) rfl rfl (by simp [Session.ended])

/-- The link of a new attempt; the others stay. -/
theorem AllClosed.link?_connect (h : w.AllClosed) (g : Nat) :
    w.connect.link? g = if g = w.session.generation + 1
      then some (Link.new (freshConnection w.session)) else w.link? g := by
  rw [connect_eq]
  show (w.links ++ [(w.session.generation + 1, Link.new (freshConnection w.session))]).lookup g = _
  rw [List.lookup_append]
  by_cases hg : g = w.session.generation + 1
  · -- No generation is used twice.
    have hnew : w.links.lookup g = none := by
      cases hl : w.link? g with
      | none => exact hl
      | some l =>
        have := (h.closed g l.connection.cancelled (by simp [isClosed?, hl])).1
        omega
    rw [hnew, if_pos hg, hg]
    simp
  · rw [if_neg hg]
    simp [List.lookup_cons, beq_false_of_ne hg, link?]

/-- A new connection is the latest. -/
theorem AllClosed.connect (h : w.AllClosed) (htimer : w.session.reconnectAt = none)
    (hstage : w.stage = .running) : w.connect.Generations where
  held := by
    rintro g ⟨⟩
    refine ⟨rfl, ?_⟩
    rw [isClosed?, h.link?_connect, if_pos rfl]
    rfl
  others := by
    intro g b hb
    rw [isClosed?, h.link?_connect] at hb
    split at hb
    · rename_i hg
      exact .inl (by rw [hg]; rfl)
    · exact .inr ((h.closed g b hb).imp Nat.lt_succ_of_le id)
  notices := fun p hp => .inr (Nat.lt_succ_of_le (h.notices p hp))
  writes := by
    intro g hg
    rw [connect_eq, history_note, writesOn_append, List.append_eq_nil_iff]
    exact ⟨h.writes g (Nat.lt_of_succ_lt hg), rfl⟩
  state := by simp [connect_eq, World.note]
  running := fun _ => hstage
  timer := by simp [connect_eq, World.note, htimer]

/-- A request that is handed over changes no connection's end. -/
theorem Generations.advance (h : w.Generations) : w.advance.Generations := by
  rcases w.advance_cases with hw | ⟨g, l, q, rest, -, -, -, -, hl, hw⟩
  · rw [hw]
    exact h
  · rw [hw]
    refine h.mono rfl rfl (fun g' => ?_) (fun _ hp => .inl hp) h.writes .rfl rfl rfl
    show ((w.setLink g _).link? g').map _ = _
    rw [link?_setLink, isClosed?]
    split
    · rename_i hg
      rw [hg, hl]
      rfl
    · rfl

/-! ### Steps -/

theorem Generations.outside (h : w.Generations) (hs : w.SameInside w') : w'.Generations := by
  obtain ⟨es, he, hq⟩ := hs.history
  have hsession := hs.session
  refine h.mono (by rw [hsession]) (by rw [hsession]) (fun g => ?_)
    (fun p hp => .inl (hs.notices ▸ hp)) (fun g hg => ?_) (by rw [hsession]) (by rw [hsession])
    hs.stage
  · have := congrArg (Option.map Connection.cancelled) (hs.connections g)
    rw [Option.map_map, Option.map_map] at this
    exact this
  · rw [he, writesOn_append, h.writes g hg, writesOn_of_quiet hq]
    rfl

/-- A step of a connection adds notices of its own, and writes on itself only. -/
theorem Generations.hear (h : w.Generations) {g : Nat} {l l' : SessionLink H}
    {effects : List (Connection.Effect (Reply H) String)} (hl : w.link? g = some l)
    (hs : l.step? w.clock = some (l', effects)) :
    ((w.setLink g l').hear g effects).Generations := by
  have hclosed : w.isClosed? g = some l.connection.cancelled := by simp [isClosed?, hl]
  have hle : g ≤ w.session.generation := by
    rcases h.others g _ hclosed with hg | ⟨hlt, -⟩
    · exact Nat.le_of_eq (h.held g hg).1
    · exact Nat.le_of_lt hlt
  have hrecord : ∀ g', w.session.generation < g' →
      writesOn g' (effects.filterMap (recordOf g)) = [] := by
    intro g' hg'
    exact filterMap_record (fun _ _ => if_neg (by omega)) (fun _ => rfl) (fun _ => rfl) effects
  have hset : ∀ g', (w.setLink g l').isClosed? g' = w.isClosed? g' := by
    intro g'
    rw [isClosed?, link?_setLink]
    split
    · rename_i hg'
      rw [hg', hclosed]
      exact congrArg some (Link.step?_cancelled hs)
    · rfl
  have hwrites : ∀ g', w.session.generation < g' →
      writesOn g' ((w.setLink g l').note (effects.filterMap (recordOf g))).history = [] := by
    intro g' hg'
    rw [history_note, writesOn_append, hrecord g' hg', List.append_nil]
    exact h.writes g' hg'
  rcases (w.setLink g l').hear_cases g effects with ⟨-, hw⟩ | ⟨-, hw⟩ <;> rw [hw]
  · exact h.mono rfl rfl hset (fun _ hp => .inl hp) hwrites .rfl rfl rfl
  · refine h.mono rfl rfl hset (fun p hp => ?_) hwrites .rfl rfl rfl
    rcases List.mem_append.1 hp with hp | hp
    · exact .inl hp
    · obtain ⟨notice, -, rfl⟩ := List.mem_map.1 hp
      exact .inr ⟨_, hclosed⟩

theorem Generations.obey (h : w.Generations) (command : Command H) :
    (w.obey command).Generations := by
  cases command with
  | submit request handler =>
    refine Generations.advance (Generations.note ?_ fun _ => rfl)
    exact h.withSession rfl rfl .rfl rfl
  | subscribe event handler =>
    obtain ⟨links, hl, hw⟩ := w.obey_subscribe_eq event handler
    rw [hw]
    refine h.mono rfl rfl (fun g => ?_) (fun _ hp => .inl hp) h.writes .rfl rfl rfl
    rw [isClosed?, link?]
    rcases hl g with hg | hg <;> rw [hg]
    · rfl
    · simp [isClosed?, Function.comp_def]
  | onDisconnect handler => exact h.withSession rfl rfl .rfl rfl
  | onLogin handler => exact h.withSession rfl rfl .rfl rfl

theorem Generations.complete (h : w.Generations) (hh : w.session.held ≠ none) (data : Json) :
    (w.complete data).Generations := by
  cases hi : w.session.inFlight with
  | none => simpa [World.complete, hi] using h
  | some q =>
    cases hr : q.reply with
    | login =>
      cases hok : checkOk q.request.action data with
      | ok =>
        rw [complete_of_accepted hi data hr hok]
        refine Generations.advance (Generations.note ?_ fun g => writesOn_of_quiet (by simp) g)
        exact h.withSession rfl rfl (by simp [h.state, hh]) rfl
      | error failure =>
        rw [complete_of_refused hi data hr hok]
        refine Generations.fail ?_ ?_ failure
        · exact h.withSession rfl rfl .rfl rfl
        · exact h.running hh
    | caller handler =>
      rw [complete_of_caller hi data hr]
      refine Generations.advance (Generations.note ?_ fun _ => rfl)
      exact h.withSession rfl rfl .rfl rfl

theorem Generations.heed (h : w.Generations) (hh : w.session.held ≠ none) (notice : Notice) :
    (w.heed notice).Generations := by
  cases notice with
  | handshaked =>
    show w.greet.Generations
    rw [greet_eq]
    refine Generations.advance (Generations.note ?_ fun _ => rfl)
    exact h.withSession rfl rfl (by simp [h.state, hh]) rfl
  | completed data => exact h.complete hh data
  | failed failure => exact h.fail (h.running hh) failure
  | event e => exact h.note fun g => writesOn_of_quiet (by simp) g

/-- A notice leaves the channel. -/
theorem Generations.dropNotice (h : w.Generations) {p : Nat × Notice} {rest : List (Nat × Notice)}
    (hn : w.notices = p :: rest) : ({ w with notices := rest } : World H).Generations := by
  refine h.mono rfl rfl (fun _ => rfl) (fun p' hp => .inl ?_) h.writes .rfl rfl rfl
  rw [hn]
  exact List.mem_cons_of_mem p hp

/-- A notice of the present generation is one of the connection that is held. -/
theorem Generations.held_of_notice (h : w.Generations) {notice : Notice}
    {rest : List (Nat × Notice)} (hn : w.notices = (w.session.generation, notice) :: rest) :
    w.session.held ≠ none := by
  rcases h.notices (w.session.generation, notice) (by simp [hn]) with hg | hlt
  · simp [hg]
  · simp at hlt

/-- Before a session begins it holds no connection. -/
theorem Generations.held_of_starting (h : w.Generations) (hs : w.stage = .starting) :
    w.session.held = none := by
  refine Classical.byContradiction fun hne => ?_
  rw [h.running hne] at hs
  cases hs

/-- The timer runs only without a connection. -/
theorem Generations.held_of_isDue (h : w.Generations) (hd : w.isDue = true) :
    w.session.held = none := by
  refine (h.timer.1 fun hnone => ?_).1
  simp [isDue, hnone] at hd

/-- The timer does not run while a connection is held. -/
theorem Generations.reconnectAt_of_held (h : w.Generations) {g : Nat}
    (hheld : w.session.held = some g) : w.session.reconnectAt = none := by
  refine Classical.byContradiction fun hne => ?_
  have hnone := (h.timer.1 hne).1
  rw [hheld] at hnone
  cases hnone

/-- Nor does it before the session begins. -/
theorem Generations.reconnectAt_of_starting (h : w.Generations) (hs : w.stage = .starting) :
    w.session.reconnectAt = none := by
  refine Classical.byContradiction fun hne => ?_
  rw [(h.timer.1 hne).2] at hs
  cases hs

theorem Generations.step (h : w.Generations) (hs : w.Step w') : w'.Generations := by
  cases hs with
  | start stage =>
    have hc := h.allClosed (h.held_of_starting stage)
    exact AllClosed.connect ⟨hc.closed, hc.notices, hc.writes⟩ (h.reconnectAt_of_starting stage) rfl
  | stop => exact h.stop
  | obey _ commands =>
    refine Generations.obey ?_ _
    exact h.withSession rfl rfl .rfl rfl
  | @heed notice rest _ _ notices =>
    exact (h.dropNotice notices).heed (h.held_of_notice notices) notice
  | skip _ _ notices => exact h.dropNotice notices
  | retry stage _ _ due =>
    have hc := h.allClosed (h.held_of_isDue due)
    exact AllClosed.connect ⟨hc.closed, hc.notices, hc.writes⟩ rfl stage

theorem Generations.act (h : w.Generations) (a : Act H) : (w.act a).Generations :=
  w.act_cases a (fun _ hs => h.outside hs) (fun _ hs => h.step hs) fun _ _ _ _ hl hs => h.hear hl hs

theorem generations_start (setup : Setup H) : (start setup.session).Generations := by
  obtain ⟨subscriptions, hs⟩ := setup.session_eq
  rw [hs]
  exact ⟨by simp [start, new], by simp [start, isClosed?, link?], by simp [start],
    by simp [start, history, writesOn], by simp [start, new], by simp [start, new],
    by simp [start, new]⟩

/-- **In every run the connection that is held is the latest and the only one not closed.** -/
theorem generations_run (setup : Setup H) (acts : List (Act H)) : (run setup acts).Generations :=
  run_induction (generations_start setup) (fun _ a h => h.act a) acts

end World

end PrintClient.Session
