import PrintClient.Proofs.Connection.Deeds
import PrintClient.Proofs.Session.Operations

/-!
# What a session does to its connections

A session sends connections on their way, hands them commands and closes them. It changes neither
the time that a response may take on a connection nor what the connection is at, and it has no hand
in what their transport does.

* `Link.OwnerKept`: what the owner of a connection leaves as it is;
* `World.KeepsLinks`: each link is a new one, or its owner has kept it;
* `Step.keepsLinks`: every step of a session keeps the links.
-/

namespace PrintClient

/-- What the owner of a connection leaves as it is. -/
structure Link.OwnerKept {R E : Type} (l l' : Link R E) : Prop where
  timeout : l'.connection.timeout = l.connection.timeout
  phase : l'.connection.phase = l.connection.phase
  outcome : l'.outcome = l.outcome

namespace Link

variable {R E : Type} {l l' l'' : Link R E}

theorem OwnerKept.refl (l : Link R E) : l.OwnerKept l := ⟨rfl, rfl, rfl⟩

theorem OwnerKept.trans (h : l.OwnerKept l') (h' : l'.OwnerKept l'') : l.OwnerKept l'' :=
  ⟨h'.timeout.trans h.timeout, h'.phase.trans h.phase, h'.outcome.trans h.outcome⟩

theorem OwnerKept.slot? (h : l.OwnerKept l') : l'.connection.slot? = l.connection.slot? := by
  rw [Connection.slot?, h.phase]
  rfl

theorem ownerKept_close (l : Link R E) : l.OwnerKept l.close := ⟨rfl, rfl, rfl⟩

theorem ownerKept_subscribe (l : Link R E) (event : String) (handler : E) :
    l.OwnerKept { l with connection := l.connection.subscribe event handler } := by
  refine ⟨?_, (l.connection.alike_subscribe event handler).phase, rfl⟩
  show (l.connection.subscribe event handler).timeout = _
  unfold Connection.subscribe
  split <;> rfl

end Link

namespace Session.World

variable {H : Type} {w w' : World H}

/-- Each link is a new one of a session with these settings, or its owner has kept it. -/
def KeepsLinks (w w' : World H) : Prop :=
  ∀ g l', w'.link? g = some l' →
    (∃ s : Session H, s.settings = w.session.settings ∧ l' = Link.new (freshConnection s)) ∨
      ∃ l, w.link? g = some l ∧ l.OwnerKept l'

theorem KeepsLinks.of_links (h : w'.links = w.links) : w.KeepsLinks w' := by
  intro g l' hl
  rw [link?, h] at hl
  exact .inr ⟨l', hl, .refl l'⟩

/-- What comes first does not touch the links. -/
theorem KeepsLinks.after (h : w.KeepsLinks w') {v : World H} (hlinks : w.links = v.links)
    (hsettings : w.session.settings = v.session.settings) : v.KeepsLinks w' := by
  intro g l' hl
  have hkept := h g l' hl
  rw [link?, hlinks, hsettings] at hkept
  exact hkept

theorem KeepsLinks.of_lookup
    (h : ∀ g, ∃ f : SessionLink H → SessionLink H, (∀ l, Link.OwnerKept l (f l)) ∧
      w'.link? g = (w.link? g).map f) : w.KeepsLinks w' := by
  intro g l' hl'
  obtain ⟨f, hf, hw⟩ := h g
  rw [hw] at hl'
  obtain ⟨l, hl, rfl⟩ := Option.map_eq_some_iff.1 hl'
  exact .inr ⟨l, hl, hf l⟩

/-- The connection that is held is closed. -/
theorem keepsLinks_close {links : List (Nat × SessionLink H)} (hw : w'.links = links)
    (hl : ∀ g, links.lookup g = if w.session.held = some g
      then (w.link? g).map Link.close else w.link? g) : w.KeepsLinks w' := by
  refine .of_lookup fun g => ?_
  rw [link?, hw, hl g]
  split
  · exact ⟨Link.close, Link.ownerKept_close, rfl⟩
  · exact ⟨id, Link.OwnerKept.refl, Option.map_id_apply.symm⟩

theorem keepsLinks_advance (w : World H) : w.KeepsLinks w.advance := by
  rcases w.advance_cases with hw | ⟨g, l, q, rest, -, -, -, -, hl, hw⟩ <;> rw [hw]
  · exact .of_links rfl
  · intro g' l' hl'
    have hlookup : (w.setLink g _).link? g' = some l' := hl'
    rw [link?_setLink] at hlookup
    split at hlookup
    · rename_i hg
      cases hlookup
      exact .inr ⟨l, hg ▸ hl, rfl, rfl, rfl⟩
    · exact .inr ⟨l', hlookup, .refl l'⟩

theorem keepsLinks_fail (w : World H) (failure : Failure) : w.KeepsLinks (w.fail failure) := by
  obtain ⟨links, hl, hw⟩ := w.fail_eq failure
  rw [hw]
  exact keepsLinks_close (w := w) rfl hl

theorem keepsLinks_complete (w : World H) (data : Json) : w.KeepsLinks (w.complete data) := by
  cases hi : w.session.inFlight with
  | none =>
    have hw : w.complete data = w := by simp [complete, hi]
    rw [hw]
    exact .of_links rfl
  | some q =>
    cases hr : q.reply with
    | caller handler =>
      rw [complete_of_caller hi data hr]
      exact (keepsLinks_advance _).after rfl rfl
    | login =>
      cases hok : checkOk q.request.action data with
      | ok =>
        rw [complete_of_accepted hi data hr hok]
        exact (keepsLinks_advance _).after rfl rfl
      | error failure =>
        rw [complete_of_refused hi data hr hok]
        exact (keepsLinks_fail _ failure).after rfl rfl

theorem keepsLinks_connect (w : World H) : w.KeepsLinks w.connect := by
  rw [connect_eq]
  intro g l' hl'
  have hlookup : (w.links ++ [(w.session.generation + 1,
    Link.new (freshConnection w.session))]).lookup g = some l' := hl'
  rw [List.lookup_append] at hlookup
  cases hl : w.links.lookup g with
  | some l =>
    rw [hl] at hlookup
    cases hlookup
    exact .inr ⟨_, hl, .refl _⟩
  | none =>
    rw [hl, Option.none_or, List.lookup_cons] at hlookup
    split at hlookup
    · cases hlookup
      exact .inl ⟨w.session, rfl, rfl⟩
    · cases hlookup

theorem keepsLinks_obey (w : World H) (command : Command H) : w.KeepsLinks (w.obey command) := by
  cases command with
  | submit request handler => exact (keepsLinks_advance _).after rfl rfl
  | subscribe event handler =>
    obtain ⟨links, hl, hw⟩ := obey_subscribe_eq w event handler
    rw [hw]
    refine .of_lookup fun g => ?_
    rcases hl g with hg | hg
    · exact ⟨id, Link.OwnerKept.refl, hg.trans Option.map_id_apply.symm⟩
    · exact ⟨fun l => { l with connection := l.connection.subscribe event event },
        fun l => l.ownerKept_subscribe event event, hg⟩
  | _ => exact .of_links rfl

theorem keepsLinks_heed (w : World H) (notice : Notice) : w.KeepsLinks (w.heed notice) := by
  cases notice with
  | handshaked => exact (keepsLinks_advance _).after rfl rfl
  | completed data => exact keepsLinks_complete w data
  | failed failure => exact keepsLinks_fail w failure
  | event e => exact .of_links rfl

/-- **A step of the session keeps the links.** -/
theorem Step.keepsLinks (h : w.Step w') : w.KeepsLinks w' := by
  cases h with
  | start => exact (keepsLinks_connect _).after rfl rfl
  | stop =>
    obtain ⟨links, hl, hw⟩ := w.stop_eq
    rw [hw]
    exact keepsLinks_close (w := w) rfl hl
  | @obey command => exact (keepsLinks_obey _ command).after rfl rfl
  | @heed notice => exact (keepsLinks_heed _ notice).after rfl rfl
  | skip => exact .of_links rfl
  | retry => exact (keepsLinks_connect _).after rfl rfl

end Session.World

end PrintClient
