import PrintClient.Proofs.Connection.Steps

/-!
# What a connection does with what it reads

An open connection reads only when its inbox is empty, and it takes what arrived first. What then
comes of it is decided by the meaning of the frame.

* `Link.step?_of_read`: the step that reads something;
* `Link.step?_read_or_not`: all other steps leave what has arrived in place, and tell of no frame;
* `Connection.receive_of_response`, `receive_of_events`, `receive_of_ignored`: what becomes of a
  frame that is well formed. `Connection.receive_of_parse` says that it ends no connection.
-/

namespace PrintClient

namespace Connection

/-- Whether an effect comes of what the transport brought. -/
def Effect.isOfFrame {R E : Type} : Effect R E → Bool
  | .read _ | .answered .. | .delivered .. => true
  | _ => false

variable {R E : Type} {c : Connection R E} {t : Talk R E} {frame : String}

theorem receive_of_response {id : Nat} {data : Json}
    (h : Frame.parse frame = .ok (.response id data)) :
    c.receive t (.text frame) = c.resolve t id data := by
  simp only [receive, h]
  rfl

theorem receive_of_events {batch : List PushEvent} (h : Frame.parse frame = .ok (.events batch)) :
    c.receive t (.text frame) = (c, batch.filterMap t.delivery?) := by
  simp only [receive, h]
  rfl

theorem receive_of_ignored (h : Frame.parse frame = .ok .ignored) :
    c.receive t (.text frame) = (c, []) := by
  simp only [receive, h]
  rfl

/-- A response frees the connection when it is the one that is awaited, and else changes nothing. -/
theorem resolve_eq (c : Connection R E) (t : Talk R E) (id : Nat) (data : Json) :
    (∃ p, t.pending = some p ∧ p.callbackId = id ∧ c.resolve t id data =
      ({ c with phase := .talking { t with pending := none }, busy := false },
        [.answered p.handler data])) ∨
      ((∀ p, t.pending = some p → p.callbackId ≠ id) ∧ c.resolve t id data = (c, [])) := by
  unfold resolve
  cases hp : t.pending with
  | none => exact .inr ⟨by simp, rfl⟩
  | some p =>
    by_cases hid : p.callbackId = id
    · exact .inl ⟨p, rfl, hid, if_pos hid⟩
    · refine .inr ⟨?_, if_neg hid⟩
      rintro _ ⟨⟩
      exact hid

/-- **A frame that is well formed leaves the connection open and causes no failure.** -/
theorem receive_of_parse {f : Frame} (hp : c.phase = .talking t) (h : Frame.parse frame = .ok f) :
    (∃ t', (c.receive t (.text frame)).1.phase = .talking t') ∧
      ∀ failure, .failed failure ∉ (c.receive t (.text frame)).2 := by
  cases f with
  | ignored =>
    rw [receive_of_ignored h]
    exact ⟨⟨t, hp⟩, by simp⟩
  | events batch =>
    rw [receive_of_events h]
    refine ⟨⟨t, hp⟩, fun failure hmem => ?_⟩
    obtain ⟨e, -, he⟩ := List.mem_filterMap.1 hmem
    obtain ⟨_, -, he⟩ := Option.map_eq_some_iff.1 he
    cases he
  | response id data =>
    rw [receive_of_response h]
    rcases resolve_eq c t id data with ⟨p, -, -, hr⟩ | ⟨-, hr⟩ <;> rw [hr]
    · exact ⟨⟨_, rfl⟩, by simp⟩
    · exact ⟨⟨t, hp⟩, by simp⟩

end Connection

namespace Link

open Connection

variable {R E : Type} {l l' : Link R E} {now : Nat} {effects : List (Effect R E)}

/-- What a step can read is what arrived first. -/
theorem TalkStep.unread_of_read {t : Talk R E} {i : Inbound} (h : l.TalkStep t now l' effects)
    (hread : .read i ∈ effects) : l.connection.inbox = [] ∧ ∃ rest, l.unread = i :: rest := by
  cases h with
  | subscribed => simp at hread
  | wrote => simp at hread
  | givenUp => simp at hread
  | unwritable => simp at hread
  | @read i' rest deliveries inbox unread _ delivered =>
    rcases List.mem_cons.1 hread with hi | hmem
    · cases hi
      exact ⟨inbox, rest, unread⟩
    · obtain ⟨_, _, _, he⟩ := delivered _ hmem
      cases he
  | @answered frame rest _ _ inbox unread =>
    obtain rfl : i = .text frame := by simpa using hread
    exact ⟨inbox, rest, unread⟩
  | @failed i' rest _ inbox unread =>
    obtain rfl : i = i' := by simpa using hread
    exact ⟨inbox, rest, unread⟩
  | expired => simp at hread

/-- **Only an open connection that nobody wants closed reads, and only when its inbox is empty.** -/
theorem step?_of_read {i : Inbound} (h : l.step? now = some (l', effects))
    (hread : .read i ∈ effects) :
    ∃ t rest, l.connection.phase = .talking t ∧ l.connection.cancelled = false ∧
      l.connection.inbox = [] ∧ l.unread = i :: rest ∧ (l', effects) = l.read t i rest := by
  have hnot : (∀ e ∈ effects, e.IsSilent) → False := fun hd => (hd _ hread).elim
  cases hc : l.connection.cancelled with
  | true => exact (hnot (step?_of_cancelled hc h)).elim
  | false =>
    cases hp : l.connection.phase with
    | idle => simp [step?, hp] at h
    | opening =>
      rcases step?_of_opening hp hc h with ⟨-, rfl⟩ | ⟨failure, rfl, -⟩
      · simp at hread
      · simp at hread
    | closing => exact (hnot (isSilent_of_dropped (step?_of_isOver (.inl hp) h).2)).elim
    | ended => exact (hnot (isSilent_of_dropped (step?_of_isOver (.inr hp) h).2)).elim
    | writing t handler => cases writeStep_of_step? hp h <;> simp at hread
    | talking t =>
      obtain ⟨hi, rest, hu⟩ := (talkStep_of_step? hp hc h).unread_of_read hread
      refine ⟨t, rest, rfl, rfl, hi, hu, ?_⟩
      simp only [step?, hp, hc, Bool.false_eq_true, if_false, talkStep?, hi, hu,
        Option.some.injEq] at h
      exact h.symm

/-- An open connection reads, or it leaves what has arrived where it is. -/
theorem TalkStep.read_or_not {t : Talk R E} (h : l.TalkStep t now l' effects) :
    (∃ i, .read i ∈ effects) ∨ (l'.unread = l.unread ∧ ∀ e ∈ effects, e.isOfFrame = false) := by
  cases h with
  | subscribed => exact .inr ⟨rfl, by simp⟩
  | wrote => exact .inr ⟨rfl, by simp [Effect.isOfFrame]⟩
  | givenUp => exact .inr ⟨rfl, by simp [Effect.isOfFrame]⟩
  | unwritable => exact .inr ⟨rfl, by simp [Effect.isOfFrame]⟩
  | expired => exact .inr ⟨rfl, by simp [Effect.isOfFrame]⟩
  | @read i => exact .inl ⟨i, List.mem_cons_self⟩
  | @answered frame => exact .inl ⟨.text frame, List.mem_cons_self⟩
  | @failed i => exact .inl ⟨i, List.mem_cons_self⟩

/-- **A step reads what arrived first, or it leaves what has arrived in place** and tells the owner
of no frame. -/
theorem step?_read_or_not (h : l.step? now = some (l', effects)) :
    (∃ t i rest, l.connection.phase = .talking t ∧ l.connection.cancelled = false ∧
      l.connection.inbox = [] ∧ l.unread = i :: rest ∧ (l', effects) = l.read t i rest) ∨
    (l'.unread = l.unread ∧ ∀ e ∈ effects, e.isOfFrame = false) := by
  have hsilent : (∀ e ∈ effects, e.IsSilent) → ∀ e ∈ effects, e.isOfFrame = false := by
    intro hd e he
    have hsilent := hd e he
    cases e <;> first | rfl | exact hsilent.elim
  have hafter : ∀ done, l.after done = (l', effects) → l'.unread = l.unread := by
    rintro done hd
    rw [← (Prod.mk.inj hd).1]
  cases hp : l.connection.phase with
  | idle => simp [step?, hp] at h
  | closing =>
    refine .inr ⟨hafter l.connection.finish ?_,
      hsilent (isSilent_of_dropped (step?_of_isOver (.inl hp) h).2)⟩
    simpa [step?, hp] using h
  | ended => simp [step?, hp] at h
  | writing t handler =>
    cases writeStep_of_step? hp h <;> exact .inr ⟨rfl, by simp [Effect.isOfFrame]⟩
  | opening =>
    cases hc : l.connection.cancelled with
    | true =>
      refine .inr ⟨hafter l.connection.stop ?_, hsilent (step?_of_cancelled hc h)⟩
      simpa [step?, hp, hc] using h
    | false =>
      rcases step?_of_opening hp hc h with ⟨rfl, rfl⟩ | ⟨failure, rfl, rfl⟩
      · exact .inr ⟨rfl, by simp [Effect.isOfFrame]⟩
      · exact .inr ⟨rfl, by simp [Effect.isOfFrame]⟩
  | talking t =>
    cases hc : l.connection.cancelled with
    | true =>
      refine .inr ⟨hafter l.connection.stop ?_, hsilent (step?_of_cancelled hc h)⟩
      simpa [step?, hp, hc] using h
    | false =>
      refine (talkStep_of_step? hp hc h).read_or_not.imp_left ?_
      rintro ⟨i, hread⟩
      obtain ⟨t', rest, hp', hc', hi, hu, heq⟩ := step?_of_read h hread
      obtain rfl := Connection.Phase.talking.inj (hp.symm.trans hp')
      exact ⟨t, i, rest, rfl, rfl, hi, hu, heq⟩

end Link

end PrintClient
