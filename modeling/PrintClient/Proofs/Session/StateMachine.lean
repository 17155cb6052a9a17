import PrintClient.Proofs.Connection.Reading
import PrintClient.Proofs.Session.Conservation
import PrintClient.Proofs.Session.Turns

/-!
# The states that a session goes through

The state that a session publishes, the connection that it holds, its timer, its queue and the
request on its way are set at different places. In every run they go together, and the state changes
only along the way from one connection to the next.

* `published`, `Follows`: the state that was published last, and what may follow it;
* `World.InOrder`: how the fields of a session at work go together;
* `World.GivesUp`: why a session gives up its connection;
* `Turn.follows`, `Turn.givesUp`: what one turn does to the state and to the connection;
* `states_in_order`: what holds of every run.
-/

namespace PrintClient.Session

variable {H : Type}

/-- What an event makes of the published state. -/
def Event.publish (s : SessionState) : Event H → SessionState
  | .entered s' => s'
  | _ => s

/-- The state that was published last; before its first attempt a session is disconnected. -/
def published (l : List (Event H)) : SessionState := l.foldl Event.publish .disconnected

/-- The states that may be published after a state. -/
inductive Follows : SessionState → SessionState → Prop
  | attempt : Follows .disconnected .connecting
  | handshake : Follows .connecting .awaitingLogin
  | login : Follows .awaitingLogin .connected
  | end (s : SessionState) : Follows s .disconnected

/-- A state is published only after one that it may follow. -/
def Event.InTurn (before : List (Event H)) (e : Event H) : Prop :=
  ∀ s, e = .entered s → Follows (published before) s

theorem Event.publish_of_isOwn {e : Event H} (h : e.isOwn = false) (s : SessionState) :
    e.publish s = s := by
  cases e with
  | entered => cases h
  | _ => rfl

theorem foldl_publish_of_ne {l : List (Event H)} (h : ∀ e ∈ l, ∀ s, e ≠ .entered s)
    (s : SessionState) : l.foldl Event.publish s = s := by
  apply foldl_of_ignored
  intro e he s'
  cases e with
  | entered s'' => exact absurd rfl (h _ he s'')
  | _ => rfl

/-- Nothing before the state that was published last matters. -/
theorem foldl_publish_entered (l : List (Event H)) {m : List (Event H)} {s' : SessionState}
    (h : ∀ e ∈ m, ∀ s, e ≠ .entered s) (s : SessionState) :
    (l ++ .entered s' :: m).foldl Event.publish s = s' := by
  rw [List.foldl_append, List.foldl_cons]
  exact foldl_publish_of_ne h s'

theorem published_append (l m : List (Event H)) :
    published (l ++ m) = m.foldl Event.publish (published l) :=
  List.foldl_append

namespace World

/-- How the fields of a session at work go together. -/
structure InOrder (w : World H) : Prop where
  /-- A session is disconnected while it holds no connection. -/
  disconnected : w.session.state = .disconnected ↔ w.session.held = none
  /-- The timer runs while the session holds no connection. -/
  timer : w.session.held = none ↔ w.session.reconnectAt ≠ none
  /-- The login waits only while it is awaited, once and before all others. -/
  queued : ∀ q ∈ w.session.queue, q.isLogin = true →
    w.session.state = .awaitingLogin ∧ ∃ rest, w.session.queue = q :: rest ∧ CallersOnly rest
  login : ∀ q, w.session.inFlight = some q → q.isLogin = true → w.session.state = .awaitingLogin
  caller : ∀ q, w.session.inFlight = some q → q.isLogin = false → w.session.state = .connected
  apart : w.session.state = .disconnected ∨ w.session.state = .connecting →
    w.session.inFlight = none

/-- Why a session gives up the connection of generation `g`. -/
inductive GivesUp (w : World H) (g : Nat) : Prop
  /-- A caller wants the session to end, or no caller is left. -/
  | shutdown (wish : w.cancelled = true ∨ w.commands = [] ∧ w.handles = 0)
  /-- The connection has told of a failure. -/
  | failure {failure : Failure} {rest : List (Nat × Notice)}
      (notices : w.notices = (g, .failed failure) :: rest)
  /-- The response to the login does not accept it. -/
  | refusal {data : Json} {rest : List (Nat × Notice)} (state : w.session.state = .awaitingLogin)
      (inFlight : w.session.inFlight = some w.session.loginEntry)
      (notices : w.notices = (g, .completed data) :: rest)
      (notOk : data.member? "ok" ≠ some (.bool true))

/-- The session hears of the first response to the login, and it accepts the login. -/
structure LoginAccepted (w : World H) (g : Nat) (data : Json) : Prop where
  held : w.session.held = some g
  notices : ∃ rest, w.notices = (g, .completed data) :: rest
  answered : Answered w.history g 1 w.session.loginEntry data
  ok : data.member? "ok" = some (.bool true)

variable {w w' : World H} {o : Outcome H}

/-! ### The fields of a session -/

theorem Generations.inOrder (hg : w.Generations) (hc : Coherent w.session)
    (hr : w.stage = .running) : w.InOrder where
  disconnected := hg.state
  timer := by
    rw [hg.timer]
    exact ⟨fun h => ⟨h, hr⟩, fun h => h.1⟩
  queued := by
    intro q hq hl
    cases hc with
    | apart _ _ queue => rw [queue q hq] at hl; cases hl
    | greeting _ _ queue => rw [queue q hq] at hl; cases hl
    | connected _ _ queue => rw [queue q hq] at hl; cases hl
    | @stalled rest state _ queue callers =>
      rw [queue] at hq ⊢
      rcases List.mem_cons.1 hq with rfl | hq
      · exact ⟨state, rest, rfl, callers⟩
      · rw [callers q hq] at hl
        cases hl
  login := fun q hi hl => (hc.of_login hi hl).1
  caller := fun q hi hl => (hc.of_caller hi hl).1
  apart := fun hs => (hc.apart_of_state hs).1

/-! ### One turn -/

theorem checkOk_of_member {action : String} {data : Json}
    (h : data.member? "ok" = some (.bool true)) : checkOk action data = .ok () := by
  simp [checkOk, h, Json.toBool?]

/-- A turn records the state that it leaves behind. -/
theorem Turn.published (h : w.Turn o) :
    o.events.foldl Event.publish w.session.state = o.session.state := by
  cases h with
  | attempt => rfl
  | take => rfl
  | register => rfl
  | onDisconnect => rfl
  | onLogin => rfl
  | greet => rfl
  | reply => rfl
  | skip => rfl
  | accept =>
    refine foldl_publish_entered [] ?_ _
    simp
  | deliver =>
    apply foldl_publish_of_ne
    simp
  | stop =>
    refine foldl_publish_entered _ ?_ _
    rintro _ he s rfl
    simp at he
  | tearDown =>
    rw [teardown, hangUp, List.cons_append]
    refine foldl_publish_entered _ ?_ _
    rintro _ he s rfl
    simp at he

/-- **What a turn publishes may follow the state before.** -/
theorem Turn.follows (hg : w.Generations) (h : w.Turn o) {l : List (Event H)}
    (hl : Throughout Event.InTurn l) (hp : Session.published l = w.session.state) :
    Throughout Event.InTurn (l ++ o.events) := by
  have hignored : ∀ {l' m : List (Event H)}, Throughout Event.InTurn l' →
      (∀ e ∈ m, ∀ s', e = .entered s' → s' = .disconnected) →
      Throughout Event.InTurn (l' ++ m) := by
    intro l' m hl' hm
    refine hl'.append m fun e he before s' hs' => ?_
    rw [hm e he s' hs']
    exact .end _
  have hentered : ∀ {s' : SessionState}, Follows w.session.state s' →
      Throughout Event.InTurn (l ++ [.entered s']) := by
    intro s' hs'
    refine hl.concat ?_
    rintro _ ⟨⟩
    rw [hp]
    exact hs'
  cases h with
  | attempt held =>
    have hstate := hg.state.2 held
    rw [List.append_cons]
    exact hignored (hentered (hstate ▸ .attempt)) (by simp)
  | greet _ _ state => exact hentered (state ▸ .handshake)
  | accept _ _ state =>
    rw [List.append_cons]
    exact hignored (hentered (state ▸ .login)) (by simp)
  | take => exact hignored hl (by simp)
  | register => exact hignored hl (by simp)
  | onDisconnect => exact hignored hl (by simp)
  | onLogin => exact hignored hl (by simp)
  | reply => exact hignored hl (by simp)
  | skip => exact hignored hl (by simp)
  | deliver => exact hignored hl (by simp)
  | stop =>
    refine hignored hl fun e he s' hs' => ?_
    subst hs'
    simpa [farewell] using he
  | tearDown =>
    refine hignored hl fun e he s' hs' => ?_
    subst hs'
    simpa [teardown, hangUp] using he

/-- A session gives its connection up for one of three reasons. -/
theorem Turn.givesUp (h : w.Turn o) {g : Nat} (hheld : w.session.held = some g)
    (hne : o.session.held ≠ some g) : w.GivesUp g := by
  cases h with
  | attempt held => rw [hheld] at held; cases held
  | stop wish => exact .shutdown wish
  | tearDown held notices cause =>
    obtain rfl := Option.some.inj (hheld.symm.trans held)
    cases cause with
    | reported => exact .failure notices
    | refused state inFlight refusal =>
      refine .refusal state inFlight notices fun hok => ?_
      rw [checkOk_of_member hok] at refusal
      cases refusal
  | take => exact absurd hheld hne
  | register => exact absurd hheld hne
  | onDisconnect => exact absurd hheld hne
  | onLogin => exact absurd hheld hne
  | greet => exact absurd hheld hne
  | accept => exact absurd hheld hne
  | reply => exact absurd hheld hne
  | deliver => exact absurd hheld hne
  | skip => exact absurd hheld hne

/-- A turn leaves the state as it is, or goes one step on, or back to the beginning. -/
theorem Turn.state_cases (h : w.Turn o) :
    o.session.state = w.session.state ∨ o.session.state = .disconnected ∨
      (o.session.state = .connecting ∧ w.session.held = none) ∨
      (o.session.state = .awaitingLogin ∧ w.session.state = .connecting) ∨
      (o.session.state = .connected ∧ ∃ g data, w.LoginAccepted g data) := by
  cases h with
  | attempt held => exact .inr (.inr (.inl ⟨rfl, held⟩))
  | stop => exact .inr (.inl rfl)
  | tearDown => exact .inr (.inl rfl)
  | greet _ _ state => exact .inr (.inr (.inr (.inl ⟨rfl, state⟩)))
  | accept held notices _ _ answered ok =>
    exact .inr (.inr (.inr (.inr ⟨rfl, _, _, held, ⟨_, notices⟩, answered, ok⟩)))
  | take => exact .inl rfl
  | register => exact .inl rfl
  | onDisconnect => exact .inl rfl
  | onLogin => exact .inl rfl
  | reply => exact .inl rfl
  | deliver => exact .inl rfl
  | skip => exact .inl rfl

/-! ### Runs -/

section Runs

variable (setup : Setup H) (acts : List (Act H))

/-- The state of a session is the one that it has published last. -/
theorem published_run :
    published (run setup acts).history = (run setup acts).session.state ∧
      Throughout Event.InTurn (run setup acts).history := by
  refine run_induction (P := fun w => published w.history = w.session.state ∧
    Throughout Event.InTurn w.history) ?_ ?_ acts
  · obtain ⟨subscriptions, hs⟩ := setup.session_eq
    rw [hs]
    exact ⟨rfl, throughout_nil⟩
  · rintro acts a ⟨hstate, hturns⟩
    rcases act_cases_of_run setup acts a with haside | ⟨-, -, o, hturn, htook⟩
    · obtain ⟨es, hes, hh⟩ := haside.history
      rw [hh, haside.session]
      refine ⟨?_, hturns.append es fun e he before s' hs' => ?_⟩
      · rw [published_append, hstate]
        exact foldl_of_ignored (fun e he => Event.publish_of_isOwn (hes e he)) _
      · rw [hs'] at he
        cases hes _ he
    · rw [htook.history, htook.session.state]
      refine ⟨?_, hturn.follows (generations_run setup acts) hturns hstate⟩
      rw [published_append, hstate]
      exact hturn.published

/-- Only a response that accepts the login makes a session logged in. -/
theorem accepted_of_act (a : Act H) (hs : (run setup acts).session.state = .awaitingLogin)
    (hs' : ((run setup acts).act a).session.state = .connected) :
    ∃ g data, (run setup acts).LoginAccepted g data := by
  rcases act_cases_of_run setup acts a with haside | ⟨-, -, o, hturn, htook⟩
  · rw [haside.session, hs] at hs'
    cases hs'
  · rw [htook.session.state] at hs'
    rcases hturn.state_cases with h | h | ⟨h, -⟩ | ⟨h, -⟩ | ⟨-, haccepted⟩
    · rw [hs', hs] at h
      cases h
    · rw [hs'] at h
      cases h
    · rw [hs'] at h
      cases h
    · rw [hs'] at h
      cases h
    · exact haccepted

/-- A session gives its connection up in a step of its own. -/
theorem givesUp_of_act (a : Act H) {g : Nat} (hheld : (run setup acts).session.held = some g)
    (hne : ((run setup acts).act a).session.held ≠ some g) :
    a = .step ∧ (run setup acts).GivesUp g := by
  rcases act_cases_of_run setup acts a with haside | ⟨ha, -, o, hturn, htook⟩
  · rw [haside.session] at hne
    exact absurd hheld hne
  · rw [htook.session.held] at hne
    exact ⟨ha, hturn.givesUp hheld hne⟩

/-- A session that is logged in stays so until it gives its connection up. -/
theorem held_ne_of_act (a : Act H) {g : Nat} (hheld : (run setup acts).session.held = some g)
    (hs : (run setup acts).session.state = .connected)
    (hne : ((run setup acts).act a).session.state ≠ .connected) :
    ((run setup acts).act a).session.held ≠ some g := by
  intro hkept
  have hstate := (generations_run setup (acts ++ [a])).state
  rw [run_concat, hkept] at hstate
  rcases act_cases_of_run setup acts a with haside | ⟨-, -, o, hturn, htook⟩
  · rw [haside.session] at hne
    exact hne hs
  · rw [htook.session.state] at hne hstate
    rcases hturn.state_cases with h | h | ⟨-, h⟩ | ⟨-, h⟩ | ⟨h, -⟩
    · exact hne (h.trans hs)
    · cases hstate.1 h
    · rw [hheld] at h
      cases h
    · rw [hs] at h
      cases h
    · exact hne h

end Runs

/-! ### Frames that are well formed -/

/-- The step of a connection that reads something. -/
theorem linkStep?_of_read {g : Nat} {i : Inbound} {more : List (Event H)}
    (h : w.linkStep? g = some w') (hh : w'.history = w.history ++ .read g i :: more) :
    ∃ l t rest, w.link? g = some l ∧ l.connection.phase = .talking t ∧
      l.connection.cancelled = false ∧ l.connection.inbox = [] ∧ l.unread = i :: rest ∧
      w' = (w.setLink g (l.read t i rest).1).hear g (l.read t i rest).2 := by
  obtain ⟨l, l', effects, hl, hs, rfl⟩ := linkStep?_eq_some h
  have hrecord := (w.setLink g l').history_hear g effects
  have hread : .read i ∈ effects := by
    have hmem : .read g i ∈ effects.filterMap (recordOf g) := by
      rw [List.append_cancel_left (hrecord.symm.trans hh)]
      exact List.mem_cons_self
    obtain ⟨e, he, hr⟩ := List.mem_filterMap.1 hmem
    cases e <;> simp only [recordOf, Option.some.injEq, reduceCtorEq] at hr
    cases hr
    exact he
  obtain ⟨t, rest, hp, hc, hi, hu, heq⟩ := Link.step?_of_read hs hread
  obtain ⟨rfl, rfl⟩ := Prod.mk.inj heq
  exact ⟨l, t, rest, hl, hp, hc, hi, hu, rfl⟩

/-- A frame that is well formed ends no connection, whatever it says. -/
theorem linkStep?_of_parse {g : Nat} {frame : String} {f : Frame} {more : List (Event H)}
    (h : w.linkStep? g = some w')
    (hh : w'.history = w.history ++ .read g (.text frame) :: more)
    (hf : Frame.parse frame = .ok f) :
    w'.session = w.session ∧ (∃ l t, w'.link? g = some l ∧ l.connection.phase = .talking t) ∧
      ∃ ms, w'.notices = w.notices ++ ms ∧ ∀ p ∈ ms, ∀ failure, p.2 ≠ .failed failure := by
  obtain ⟨l, t, rest, hl, hp, -, -, -, rfl⟩ := linkStep?_of_read h hh
  obtain ⟨⟨t', hp'⟩, hfailed⟩ := Connection.receive_of_parse hp hf
  have hlink : (w.setLink g (l.read t (.text frame) rest).1).link? g =
      some (l.read t (.text frame) rest).1 := by
    rw [link?_setLink, if_pos rfl]
  have hnotices : ∀ n ∈ (l.read t (.text frame) rest).2.filterMap noticeOf,
      ∀ failure, n ≠ .failed failure := by
    rintro _ hn failure rfl
    obtain ⟨e, he, hnotice⟩ := List.mem_filterMap.1 hn
    cases e <;> simp only [noticeOf, Option.some.injEq, reduceCtorEq] at hnotice
    cases hnotice
    rcases List.mem_cons.1 he with he | he
    · cases he
    · exact hfailed _ he
  rcases hear_cases (w.setLink g (l.read t (.text frame) rest).1) g
    (l.read t (.text frame) rest).2 with ⟨-, hw⟩ | ⟨-, hw⟩ <;> rw [hw]
  · exact ⟨rfl, ⟨_, t', hlink, hp'⟩, [], (List.append_nil _).symm, by simp⟩
  · refine ⟨rfl, ⟨_, t', hlink, hp'⟩, _, rfl, fun p hmem => ?_⟩
    obtain ⟨n, hn, rfl⟩ := List.mem_map.1 hmem
    exact hnotices n hn

/-! ### Every run -/

/-- **In every run the fields of the session go together, and its published state takes only these
ways.** It becomes logged in only by the first response to the login on the connection that is held,
with a flag `ok` that is true. It stops being logged in only at its end, or when the connection has
told of a failure: neither the answer to a caller nor a frame that is well formed makes it so. -/
theorem states_in_order (setup : Setup H) (acts : List (Act H)) :
    ((run setup acts).stage = .running → (run setup acts).InOrder) ∧
    (run setup acts).session.state = published (run setup acts).history ∧
    (∀ before s after, (run setup acts).history = before ++ .entered s :: after →
      Follows (published before) s) ∧
    (∀ a, (run setup acts).session.state = .awaitingLogin →
      ((run setup acts).act a).session.state = .connected →
      ∃ g data, (run setup acts).LoginAccepted g data) ∧
    (∀ a, (run setup acts).session.state = .connected →
      ((run setup acts).act a).session.state ≠ .connected →
      a = .step ∧ ((run setup acts).cancelled = true ∨
          (run setup acts).commands = [] ∧ (run setup acts).handles = 0 ∨
        ∃ g failure rest, (run setup acts).session.held = some g ∧
          (run setup acts).notices = (g, .failed failure) :: rest)) ∧
    (∀ a g, (run setup acts).session.held = some g →
      ((run setup acts).act a).session.held ≠ some g → a = .step ∧ (run setup acts).GivesUp g) ∧
    (∀ g w' frame f more, (run setup acts).linkStep? g = some w' →
      w'.history = (run setup acts).history ++ .read g (.text frame) :: more →
      Frame.parse frame = .ok f →
      w'.session = (run setup acts).session ∧
        (∃ l t, w'.link? g = some l ∧ l.connection.phase = .talking t) ∧
        ∃ ms, w'.notices = (run setup acts).notices ++ ms ∧
          ∀ p ∈ ms, ∀ failure, p.2 ≠ .failed failure) := by
  have hg := generations_run setup acts
  obtain ⟨hstate, hturns⟩ := published_run setup acts
  refine ⟨hg.inOrder (exchange_run setup acts).coherent, hstate.symm, fun before s after h => ?_,
    accepted_of_act setup acts, fun a hs hne => ?_, fun a g => givesUp_of_act setup acts a,
    fun g w' frame f more => linkStep?_of_parse⟩
  · rw [h] at hturns
    exact hturns.at s rfl
  · have hheld : (run setup acts).session.held ≠ none := by
      intro hnone
      rw [hg.state.2 hnone] at hs
      cases hs
    obtain ⟨g, hheld⟩ := Option.ne_none_iff_exists'.1 hheld
    obtain ⟨rfl, hgives⟩ :=
      givesUp_of_act setup acts a hheld (held_ne_of_act setup acts a hheld hs hne)
    refine ⟨rfl, ?_⟩
    cases hgives with
    | shutdown wish => exact wish.imp_right .inl
    | failure notices => exact .inr (.inr ⟨_, _, _, hheld, notices⟩)
    | refusal state => rw [hs] at state; cases state

/-- The connection that a logged-in session gives up is one that has told of its end. -/
theorem sampleLoss_in_order :
    (run sampleSetup sampleLogin).InOrder ∧
    (∃ g data, (run sampleSetup sampleLogin.dropLast).LoginAccepted g data) ∧
    ∃ failure rest,
      (run sampleSetup sampleLoss.dropLast).notices = (1, .failed failure) :: rest := by
  have hrunning : (run sampleSetup sampleLogin).stage = .running := by decide +kernel
  have hawaiting : (run sampleSetup sampleLogin.dropLast).session.state = .awaitingLogin := by
    decide +kernel
  have hloggedIn :
      ((run sampleSetup sampleLogin.dropLast).act .step).session.state = .connected := by
    decide +kernel
  have hconnected : (run sampleSetup sampleLoss.dropLast).session.state = .connected := by
    decide +kernel
  have hlost : ((run sampleSetup sampleLoss.dropLast).act .step).session.state ≠ .connected := by
    decide +kernel
  have hheld : (run sampleSetup sampleLoss.dropLast).session.held = some 1 := by decide +kernel
  have hopen : ¬ ((run sampleSetup sampleLoss.dropLast).cancelled = true ∨
      (run sampleSetup sampleLoss.dropLast).handles = 0) := by
    decide +kernel
  obtain ⟨horder, -⟩ := states_in_order sampleSetup sampleLogin
  obtain ⟨-, -, -, haccepted, -⟩ := states_in_order sampleSetup sampleLogin.dropLast
  obtain ⟨-, -, -, -, hleft, -⟩ := states_in_order sampleSetup sampleLoss.dropLast
  refine ⟨horder hrunning, haccepted .step hawaiting hloggedIn, ?_⟩
  obtain ⟨-, hcancelled | ⟨-, hnobody⟩ | ⟨g, failure, rest, hg, hnotices⟩⟩ :=
    hleft .step hconnected hlost
  · exact absurd (.inl hcancelled) hopen
  · exact absurd (.inr hnobody) hopen
  · obtain rfl := Option.some.inj (hheld.symm.trans hg)
    exact ⟨failure, rest, hnotices⟩

end World

end PrintClient.Session
