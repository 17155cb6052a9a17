import PrintClient.Proofs.Session.Links
import PrintClient.Proofs.Session.Turns

/-!
# Texts that are being written

A connection that writes has handed a text to its transport, and that the transport has taken it is
told of no other text. So whoever knows when the last text was handed over knows which texts can
still be taken, however late that is.

* `Link.Move.wrote_of_writing`, `writing_of_armed`: how the writing of a text begins and ends;
* `World.WritesKnown`: what is being written was recorded when it was handed over;
* `writesKnown_run`, `wrote_of_armed`: so it is in every run, and with it what is taken.
-/

namespace PrintClient

namespace Link

open Connection

variable {R E : Type} {l l' : Link R E} {now : Nat} {effects : List (Effect R E)}

/-- A connection that writes after a step has handed the text over with it. -/
theorem Move.wrote_of_writing (h : l.Move now l' effects) {t : Talk R E} {handler : R}
    (hp : l'.connection.phase = .writing t handler) :
    ∃ request, .wrote t.lastId request handler ∈ effects := by
  cases h with
  | talked phase _ step =>
    -- No other step of an open connection leads to the writing of a text.
    cases step with
    | wrote =>
      cases hp
      exact ⟨_, List.mem_singleton_self _⟩
    | givenUp => exact absurd (phase.symm.trans hp) (by simp)
    | read => exact absurd (phase.symm.trans hp) (by simp)
    | _ => cases hp
  | wrote _ step => cases step <;> cases hp
  | _ => cases hp

/-- The text that has been taken is the one that the connection was writing. -/
theorem Move.writing_of_armed (h : l.Move now l' effects) {id : Nat} {handler : R}
    (he : .armed id handler ∈ effects) :
    ∃ t, l.connection.phase = .writing t handler ∧ t.lastId = id := by
  cases h with
  | talked _ _ step =>
    cases step with
    | read _ _ _ delivered =>
      rcases List.mem_cons.1 he with he | he
      · cases he
      · obtain ⟨_, _, _, he⟩ := delivered _ he
        cases he
    | _ => simp at he
  | wrote phase step =>
    cases step with
    | armed =>
      cases List.mem_singleton.1 he
      exact ⟨_, phase, rfl⟩
    | _ => simp at he
  | _ => simp at he

end Link

namespace Session.World

variable {H : Type}

/-- What a connection is writing was recorded when it was handed to the transport. -/
def WritesKnown (w : World H) : Prop :=
  ∀ g l t reply, w.link? g = some l → l.connection.phase = .writing t reply →
    ∃ q, .wrote g t.lastId q ∈ w.history

variable {w : World H} {g : Nat} {l l' : SessionLink H}
  {effects : List (Connection.Effect (Reply H) String)}

/-- A step of a connection records what it hands over. -/
theorem WritesKnown.hear (h : w.WritesKnown) (hs : l.step? w.clock = some (l', effects)) :
    ((w.setLink g l').hear g effects).WritesKnown := by
  intro g' k t reply hk hp
  rw [link?_hear, link?_setLink] at hk
  rw [history_hear]
  split at hk
  · rename_i hg
    cases hk
    obtain ⟨request, hwrote⟩ := (Link.move_of_step? hs).wrote_of_writing hp
    refine ⟨⟨request, reply⟩, List.mem_append_right _ (List.mem_filterMap.2 ⟨_, hwrote, ?_⟩)⟩
    rw [recordOf, hg]
  · obtain ⟨q, hq⟩ := h g' k t reply hk hp
    exact ⟨q, List.mem_append_left _ hq⟩

/-- What the session does to its links leaves their writing as it is. -/
theorem WritesKnown.of_keepsLinks (h : w.WritesKnown) {w' : World H} {es : List (Event H)}
    (hes : w'.history = w.history ++ es) (hkeeps : w.KeepsLinks w') : w'.WritesKnown := by
  intro g l t reply hl hp
  rcases hkeeps g l hl with ⟨s, -, rfl⟩ | ⟨k, hk, hkept⟩
  · cases hp
  · obtain ⟨q, hq⟩ := h g k t reply hk (hkept.phase.symm.trans hp)
    rw [hes]
    exact ⟨q, List.mem_append_left _ hq⟩

/-- **In every run what is being written was recorded when it was handed over.** -/
theorem writesKnown_run (setup : Setup H) (acts : List (Act H)) :
    (run setup acts).WritesKnown := by
  refine run_induction (fun _ _ _ _ h => by cases h) (fun acts a ih => ?_) acts
  refine act_cases (P := fun w' => (∃ es, w'.history = (run setup acts).history ++ es) →
    w'.WritesKnown) (run setup acts) a ?_ ?_ ?_ (history_act_of_run setup acts a)
  · rintro w' hsame ⟨es, hes⟩ g l t reply hl hp
    have hconnection := hsame.connections g
    rw [hl, Option.map_some] at hconnection
    obtain ⟨k, hk, hck⟩ := Option.map_eq_some_iff.1 hconnection.symm
    obtain ⟨q, hq⟩ := ih g k t reply hk (hck ▸ hp)
    rw [hes]
    exact ⟨q, List.mem_append_left _ hq⟩
  · rintro w' hstep ⟨es, hes⟩
    exact ih.of_keepsLinks hes hstep.keepsLinks
  · exact fun g l l' effects _ hs _ => ih.hear hs

/-- **Only a text that was handed to the transport is taken by it.** -/
theorem wrote_of_armed (setup : Setup H) (acts : List (Act H)) {g' id : Nat}
    (hl : (run setup acts).link? g = some l)
    (hs : l.step? (run setup acts).clock = some (l', effects))
    (he : .armed g' id ∈ effects.filterMap (recordOf g)) :
    ∃ q, .wrote g' id q ∈ (run setup acts).history := by
  obtain ⟨effect, heffect, hrecord⟩ := List.mem_filterMap.1 he
  cases effect with
  | armed =>
    cases hrecord
    obtain ⟨t, hp, rfl⟩ := (Link.move_of_step? hs).writing_of_armed heffect
    exact writesKnown_run setup acts g l t _ hl hp
  | _ => cases hrecord

end Session.World

end PrintClient
