import PrintClient.Proofs.Connection.Forwarders
import PrintClient.Proofs.Session.Subscriptions

/-!
# Events that are forwarded

A connection forwards an event to its session under the event's own name, and the session keeps the
handlers. The two tables are kept in step: the connection that is held forwards, or will forward
once its inbox is empty, just those events that the session has a handler for.

* `Session.forward?`: whom a connection is to call for an event;
* `World.Forwarding`: the two tables are in step;
* `Forwarding.act`, `forwarding_run`: they are in every run.
-/

namespace PrintClient.Session

variable {H : Type}

/-- Whom a connection is to call for an event: the session, under the event's name, if there is a
handler. -/
def forward? (s : Session H) (event : String) : Option String :=
  if (s.handlersOf event).isEmpty then none else some event

/-- Every name that is kept has a handler. -/
def Registered (s : Session H) : Prop := ∀ p ∈ s.subscriptions, p.2 ≠ []

theorem registered_addHandler {event : String} {handler : H}
    {subscriptions : List (String × List H)} (h : ∀ p ∈ subscriptions, p.2 ≠ []) :
    ∀ p ∈ addHandler event handler subscriptions, p.2 ≠ [] := by
  induction subscriptions with
  | nil => simp [addHandler]
  | cons q rest ih =>
    rw [List.forall_mem_cons] at h
    unfold addHandler
    split
    · rw [List.forall_mem_cons]
      exact ⟨by simp, h.2⟩
    · rw [List.forall_mem_cons]
      exact ⟨h.1, ih h.2⟩

theorem Registered.subscribe {s : Session H} (h : s.Registered) (event : String) (handler : H) :
    (s.subscribe event handler).Registered :=
  registered_addHandler h

theorem registered_setup (setup : Setup H) : setup.session.Registered := by
  suffices h : ∀ (subscriptions : List (String × H)) (s : Session H), s.Registered →
      (subscriptions.foldl (fun s p => s.subscribe p.1 p.2) s).Registered from
    h setup.subscriptions (new setup.endpoint setup.settings) fun _ hp => by cases hp
  intro subscriptions
  induction subscriptions with
  | nil => exact fun s hs => hs
  | cons p rest ih => exact fun s hs => ih _ (hs.subscribe p.1 p.2)

theorem forward?_subscribe (s : Session H) (name event : String) (handler : H) :
    (s.subscribe name handler).forward? event =
      if name = event then some event else s.forward? event := by
  unfold forward?
  rw [handlersOf_subscribe]
  by_cases h : name = event
  · simp [h]
  · simp [h]

namespace World

/-! ### New connections -/

theorem foldl_retarget_subscriptions (subscriptions : List (String × List H)) (event : String)
    (found : Option String) :
    (subscriptions.map fun entry => .subscribe entry.1 entry.1).foldl
        (Connection.Command.retarget (R := Reply H) event) found =
      if (subscriptions.lookup event).isSome then some event else found := by
  induction subscriptions generalizing found with
  | nil => rfl
  | cons p rest ih =>
    obtain ⟨name, handlers⟩ := p
    rw [List.map_cons, List.foldl_cons, ih, Connection.Command.retarget]
    by_cases h : event = name
    · subst h
      simp
    · have hne : ¬ name = event := fun he => h he.symm
      rw [List.lookup_cons, beq_false_of_ne h, if_neg hne]

/-- A new connection is to forward the events that the session has a handler for. -/
theorem forwarder?_freshConnection {s : Session H} (h : s.Registered) (event : String) :
    (freshConnection s).forwarder? event = s.forward? event := by
  have hfold := foldl_retarget_subscriptions s.subscriptions event none
  have hempty : (s.handlersOf event).isEmpty = !(s.subscriptions.lookup event).isSome := by
    unfold handlersOf
    cases hl : s.subscriptions.lookup event with
    | none => rfl
    | some handlers =>
      obtain ⟨before, after, hsplit, -⟩ := List.lookup_eq_some_iff.1 hl
      have hne : handlers ≠ [] := h (event, handlers) (by simp [hsplit])
      simp [hne]
  have hforwarder : (freshConnection s).forwarder? event =
      (s.subscriptions.map fun entry => .subscribe entry.1 entry.1).foldl
        (Connection.Command.retarget (R := Reply H) event) none := rfl
  rw [hforwarder, hfold, forward?, hempty]
  cases (s.subscriptions.lookup event).isSome <;> rfl

/-! ### The invariant -/

/-- The connection that is held forwards just the events that the session has a handler for. -/
structure Forwarding (w : World H) : Prop where
  registered : w.session.Registered
  forwards : ∀ g l, w.session.held = some g → w.link? g = some l → ¬ l.connection.IsOver →
    ∀ event, l.connection.forwarder? event = w.session.forward? event

variable {w w' : World H}

/-- A change that is not about handlers or connections. -/
theorem Forwarding.mono (h : w.Forwarding)
    (hsubscriptions : w'.session.subscriptions = w.session.subscriptions)
    (hheld : w'.session.held = w.session.held ∨ w'.session.held = none)
    (hlinks : ∀ g, w'.session.held = some g →
      (w'.link? g).map Link.connection = (w.link? g).map Link.connection) : w'.Forwarding where
  registered := by
    unfold Registered
    rw [hsubscriptions]
    exact h.registered
  forwards := by
    intro g l hg hl ho event
    have hconnection := hlinks g hg
    rw [hl] at hconnection
    obtain ⟨k, hk, hkl⟩ := Option.map_eq_some_iff.1 hconnection.symm
    have hforward : w'.session.forward? event = w.session.forward? event := by
      unfold forward? handlersOf
      rw [hsubscriptions]
    rw [hforward, ← hkl]
    rw [← hkl] at ho
    rcases hheld with heq | hnone
    · exact h.forwards g k (heq ▸ hg) hk ho event
    · rw [hnone] at hg
      cases hg

theorem Forwarding.advance (h : w.Forwarding) : w.advance.Forwarding := by
  rcases w.advance_cases with hw | ⟨g, l, q, rest, -, hheld, -, -, hl, hw⟩
  · rw [hw]
    exact h
  · rw [hw]
    refine ⟨h.registered, fun g' l' hg' hl' ho event => ?_⟩
    obtain rfl := Option.some.inj (hheld.symm.trans hg')
    replace hl' : (w.setLink g _).link? g = some l' := hl'
    rw [link?_setLink, if_pos rfl] at hl'
    cases hl'
    have hsend := Connection.forwarder?_append l.connection true [.send q.request q.reply] event
    exact hsend.trans (h.forwards g l hheld hl ho event)

/-! ### Steps of the session -/

/-- The first handler of an event is also told to the connection that is held, and to no other. -/
theorem link?_obey_subscribe (event : String) (handler : H) (g : Nat) :
    (w.obey (.subscribe event handler)).link? g =
      if w.session.held = some g ∧ (w.session.handlersOf event).isEmpty then
        (w.link? g).map fun l => { l with connection := l.connection.subscribe event event }
      else w.link? g := by
  have hheld : (w.session.subscribe event handler).held = w.session.held := rfl
  simp only [World.obey, hheld]
  cases w.session.held with
  | none => rfl
  | some g' =>
    cases (w.session.handlersOf event).isEmpty with
    | false => simp [link?]
    | true =>
      obtain ⟨links, hl, hw⟩ :=
        updateLink_eq { w with session := w.session.subscribe event handler } g'
          fun l => { l with connection := l.connection.subscribe event event }
      simp only [if_true, updateConnection, hw, and_true]
      show links.lookup g = _
      rw [hl g]
      by_cases hg : g = g'
      · subst hg
        simp [link?]
      · have hne : ¬ some g' = some g := fun he => hg (Option.some.inj he).symm
        rw [if_neg hg, if_neg hne]
        rfl

theorem Forwarding.subscribe (h : w.Forwarding) (event : String) (handler : H) :
    (w.obey (.subscribe event handler)).Forwarding := by
  have hs : (w.obey (.subscribe event handler)).session = w.session.subscribe event handler := by
    obtain ⟨links, -, hw⟩ := w.obey_subscribe_eq event handler
    rw [hw]
  refine ⟨hs ▸ h.registered.subscribe event handler, fun g l hg hl ho name => ?_⟩
  rw [hs] at hg
  replace hg : w.session.held = some g := hg
  rw [hs, forward?_subscribe]
  rw [link?_obey_subscribe] at hl
  split at hl
  · -- The first handler: the connection is told to forward the event.
    obtain ⟨k, hk, rfl⟩ := Option.map_eq_some_iff.1 hl
    have hbefore : ¬ k.connection.IsOver := fun hover =>
      ho ((Connection.alike_subscribe k.connection event event).isOver hover)
    rw [Connection.forwarder?_subscribe hbefore, h.forwards g k hg hk hbefore]
    by_cases he : event = name
    · simp [he]
    · simp [he]
  · -- There is a handler already, so the event is forwarded already.
    rename_i hfirst
    rw [h.forwards g l hg hl ho]
    split
    · rename_i he
      subst he
      have hne : ¬ (w.session.handlersOf event).isEmpty = true := fun hempty => hfirst ⟨hg, hempty⟩
      rw [forward?, if_neg hne]
    · rfl

theorem Forwarding.fail (h : w.Forwarding) (failure : Failure) : (w.fail failure).Forwarding := by
  obtain ⟨links, -, hw⟩ := w.fail_eq failure
  rw [hw]
  exact h.mono rfl (.inr rfl) fun _ hg => by cases hg

theorem Forwarding.stop (h : w.Forwarding) : w.stop.Forwarding := by
  obtain ⟨links, -, hw⟩ := w.stop_eq
  rw [hw]
  exact h.mono rfl (.inr rfl) fun _ hg => by cases hg

theorem Forwarding.obey (h : w.Forwarding) (command : Command H) : (w.obey command).Forwarding := by
  cases command with
  | submit request handler =>
    refine Forwarding.advance ?_
    exact h.mono rfl (.inl rfl) fun _ _ => rfl
  | subscribe event handler => exact h.subscribe event handler
  | onDisconnect handler => exact h.mono rfl (.inl rfl) fun _ _ => rfl
  | onLogin handler => exact h.mono rfl (.inl rfl) fun _ _ => rfl

theorem Forwarding.complete (h : w.Forwarding) (data : Json) : (w.complete data).Forwarding := by
  cases hi : w.session.inFlight with
  | none => simpa [World.complete, hi] using h
  | some q =>
    cases hr : q.reply with
    | login =>
      cases hok : checkOk q.request.action data with
      | ok =>
        rw [complete_of_accepted hi data hr hok]
        refine Forwarding.advance ?_
        exact h.mono rfl (.inl rfl) fun _ _ => rfl
      | error failure =>
        rw [complete_of_refused hi data hr hok]
        refine Forwarding.fail ?_ failure
        exact h.mono rfl (.inl rfl) fun _ _ => rfl
    | caller handler =>
      rw [complete_of_caller hi data hr]
      refine Forwarding.advance ?_
      exact h.mono rfl (.inl rfl) fun _ _ => rfl

theorem Forwarding.heed (h : w.Forwarding) (notice : Notice) : (w.heed notice).Forwarding := by
  cases notice with
  | handshaked =>
    show w.greet.Forwarding
    rw [greet_eq]
    refine Forwarding.advance ?_
    exact h.mono rfl (.inl rfl) fun _ _ => rfl
  | completed data => exact h.complete data
  | failed failure => exact h.fail failure
  | event e => exact h.mono rfl (.inl rfl) fun _ _ => rfl

theorem Registered.forwarding_connect (h : w.session.Registered) (hc : w.AllClosed) :
    w.connect.Forwarding where
  registered := h
  forwards := by
    rintro g l ⟨⟩ hl - event
    rw [hc.link?_connect, if_pos rfl] at hl
    cases hl
    exact forwarder?_freshConnection h event

theorem Forwarding.step (h : w.Forwarding) (hg : w.Generations) (hs : w.Step w') :
    w'.Forwarding := by
  cases hs with
  | start stage =>
    have hc := hg.allClosed (hg.held_of_starting stage)
    exact Registered.forwarding_connect h.registered ⟨hc.closed, hc.notices, hc.writes⟩
  | stop => exact h.stop
  | obey _ commands =>
    refine Forwarding.obey ?_ _
    exact h.mono rfl (.inl rfl) fun _ _ => rfl
  | heed _ _ notices =>
    refine Forwarding.heed ?_ _
    exact h.mono rfl (.inl rfl) fun _ _ => rfl
  | skip => exact h.mono rfl (.inl rfl) fun _ _ => rfl
  | retry stage _ _ due =>
    have hc := hg.allClosed (hg.held_of_isDue due)
    exact Registered.forwarding_connect h.registered ⟨hc.closed, hc.notices, hc.writes⟩

/-! ### Acts -/

theorem Forwarding.hear (h : w.Forwarding) {g : Nat} {l l' : SessionLink H}
    {effects : List (Connection.Effect (Reply H) String)} (hl : w.link? g = some l)
    (hs : l.step? w.clock = some (l', effects)) :
    ((w.setLink g l').hear g effects).Forwarding := by
  have hset : (w.setLink g l').Forwarding := by
    refine ⟨h.registered, fun g' k hg' hk ho event => ?_⟩
    rw [link?_setLink] at hk
    split at hk
    · rename_i heq
      subst heq
      cases hk
      have hbefore : ¬ l.connection.IsOver := fun hover => ho (Link.step?_of_isOver hover hs).1
      rw [Link.forwarder?_step hs ho]
      exact h.forwards g' l hg' hl hbefore event
    · exact h.forwards g' k hg' hk ho event
  rcases (w.setLink g l').hear_cases g effects with ⟨-, hw⟩ | ⟨-, hw⟩ <;> rw [hw]
  · exact hset.mono rfl (.inl rfl) fun _ _ => rfl
  · exact hset.mono rfl (.inl rfl) fun _ _ => rfl

theorem Forwarding.act (h : w.Forwarding) (hg : w.Generations) (a : Act H) :
    (w.act a).Forwarding := by
  refine w.act_cases a (fun w' hs => ?_) (fun _ hs => h.step hg hs)
    fun _ _ _ _ hl hs => h.hear hl hs
  exact h.mono (by rw [hs.session]) (.inl (by rw [hs.session])) fun g _ => hs.connections g

theorem forwarding_start (setup : Setup H) : (start setup.session).Forwarding :=
  ⟨registered_setup setup, fun g l _ hl => by cases hl⟩

/-- **In every run the connection that is held forwards just the events that the session has a
handler for.** -/
theorem forwarding_run (setup : Setup H) (acts : List (Act H)) : (run setup acts).Forwarding :=
  run_induction (forwarding_start setup) (fun acts a h => h.act (generations_run setup acts) a) acts

end World

end PrintClient.Session
