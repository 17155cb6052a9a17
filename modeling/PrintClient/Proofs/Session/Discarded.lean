import PrintClient.Proofs.Session.Conservation
import PrintClient.Proofs.Session.Stale
import PrintClient.Proofs.Session.Teardowns

/-!
# Connections that were given up

A session holds one connection at a time, and it never comes back to one that it has given up. Such
a connection writes and reads nothing any more, and what it has told the session before changes
nothing, so it is torn down at most once.

* `Event.isOn`, `silent_all`: nothing happens on a connection that was given up;
* `held_ne_all`, `tearsDown_unique`: no generation is held again, and none is torn down twice;
* `discarded_cannot_interfere`: what holds of every run.
-/

namespace PrintClient.Session

variable {H : Type}

/-- Whether a connection has written or read something. -/
def Event.isOn (g : Nat) : Event H → Bool
  | .wrote g' .. => g' = g
  | .read g' _ => g' = g
  | _ => false

theorem Event.isOn_of_isOwn {e : Event H} (h : e.isOwn = true) (g : Nat) : e.isOn g = false := by
  cases e with
  | wrote => cases h
  | read => cases h
  | _ => rfl

theorem Event.isOn_of_isQuiet {e : Event H} (h : e.IsQuiet) (g : Nat) : e.isOn g = false := by
  cases e with
  | wrote => cases h
  | read => cases h
  | _ => rfl

namespace World

variable {w w' : World H} {g : Nat}

/-- A connection that was made and is not held any more is of an earlier generation. -/
theorem Generations.lt_of_held_ne (h : w.Generations) {l : SessionLink H} (hl : w.link? g = some l)
    (hne : w.session.held ≠ some g) : g < w.session.generation := by
  rcases h.others g l.connection.cancelled (by simp [isClosed?, hl]) with hheld | ⟨hlt, -⟩
  · exact absurd hheld hne
  · exact hlt

section Runs

variable (setup : Setup H) (acts : List (Act H))

theorem generation_le_all (more : List (Act H)) :
    (run setup acts).session.generation ≤ ((run setup acts).all more).session.generation := by
  induction more generalizing acts with
  | nil => exact Nat.le_refl _
  | cons a more ih =>
    have h := ih (acts ++ [a])
    rw [run_concat] at h
    exact Nat.le_trans (generation_le_of_act setup acts a) h

/-- No earlier generation is held. -/
theorem held_ne_of_lt (hlt : g < (run setup acts).session.generation) :
    (run setup acts).session.held ≠ some g := by
  intro hheld
  have := ((generations_run setup acts).held g hheld).1
  omega

/-- A generation that was given up is never held again. -/
theorem held_ne_all (hlt : g < (run setup acts).session.generation) (more : List (Act H)) :
    ((run setup acts).all more).session.held ≠ some g := by
  rw [← run_append]
  apply held_ne_of_lt
  rw [run_append]
  exact Nat.lt_of_lt_of_le hlt (generation_le_all setup acts more)

/-- Nothing happens on a connection of an earlier generation. -/
theorem silent_act (hlt : g < (run setup acts).session.generation) (a : Act H) :
    ∃ es : List (Event H), ((run setup acts).act a).history = (run setup acts).history ++ es ∧
      ∀ e ∈ es, e.isOn g = false := by
  have hg := generations_run setup acts
  refine act_cases (P := fun w' => ∃ es : List (Event H),
    w'.history = (run setup acts).history ++ es ∧ ∀ e ∈ es, e.isOn g = false)
    (run setup acts) a (fun w' hs => ?_) (fun w' hs => ?_) fun g' l l' effects hl hs => ?_
  · obtain ⟨es, he, hquiet⟩ := hs.history
    exact ⟨es, he, fun e he' => Event.isOn_of_isQuiet (hquiet e he') g⟩
  · obtain ⟨o, hturn, htook⟩ := hs.turn hg (exchange_run setup acts)
    exact ⟨o.events, htook.history, fun e he => Event.isOn_of_isOwn (hturn.isOwn e he) g⟩
  · have hnone : ∀ e ∈ effects.filterMap (recordOf g'), e.isOn g = false := by
      intro e he
      by_cases hgg : g' = g
      · -- Its owner has closed the connection, so at most the time for a response begins.
        subst hgg
        have hclosed : l.connection.cancelled = true := by
          cases hc : l.connection.cancelled with
          | true => rfl
          | false => exact absurd (hg.held_of_open hl hc) (held_ne_of_lt setup acts hlt)
        exact Event.isOn_of_isQuiet
          (isQuiet_record_of_silent (Link.step?_of_cancelled hclosed hs) e he) g'
      · rcases mem_filterMap_recordOf he with ⟨id, q, rfl⟩ | ⟨id, rfl⟩ | ⟨i, rfl⟩
        · exact decide_eq_false hgg
        · rfl
        · exact decide_eq_false hgg
    exact ⟨effects.filterMap (recordOf g'),
      ((run setup acts).setLink g' l').history_hear g' effects, hnone⟩

theorem silent_all (hlt : g < (run setup acts).session.generation) (more : List (Act H)) :
    ∃ es : List (Event H), ((run setup acts).all more).history = (run setup acts).history ++ es ∧
      ∀ e ∈ es, e.isOn g = false := by
  induction more generalizing acts with
  | nil => exact ⟨[], (List.append_nil _).symm, by simp⟩
  | cons a more ih =>
    obtain ⟨es, hes, hnone⟩ := silent_act setup acts hlt a
    have hlt' : g < (run setup (acts ++ [a])).session.generation := by
      rw [run_concat]
      exact Nat.lt_of_lt_of_le hlt (generation_le_of_act setup acts a)
    obtain ⟨es', hes', hnone'⟩ := ih (acts ++ [a]) hlt'
    rw [run_concat, hes] at hes'
    refine ⟨es ++ es', ?_, fun e he => ?_⟩
    · rw [← List.append_assoc]
      exact hes'
    · rcases List.mem_append.1 he with he | he
      · exact hnone e he
      · exact hnone' e he

/-- A teardown ends the generation. -/
theorem TearsDown.lt (hg : w.Generations) {failure : Failure} (h : w.TearsDown w' g failure) :
    g < w'.session.generation := by
  have hgen : w'.session.generation = w.session.generation + 1 := h.session.generation
  have := (hg.held g h.held).1
  omega

/-- After a teardown of a connection there is no other one of the same connection. -/
theorem TearsDown.no_later {before between : List (Act H)} {a a' : Act H}
    {failure failure' : Failure}
    (h : (run setup before).TearsDown ((run setup before).act a) g failure)
    (h' : (run setup (before ++ [a] ++ between)).TearsDown
      ((run setup (before ++ [a] ++ between)).act a') g failure') : False := by
  have hlt := h.lt (generations_run setup before)
  rw [← run_concat] at hlt
  have hne := held_ne_all setup (before ++ [a]) hlt between
  rw [← run_append] at hne
  exact hne h'.held

/-- **No connection is torn down twice.** -/
theorem tearsDown_unique {before before' : List (Act H)} {a a' : Act H} {failure failure' : Failure}
    (hb : before ++ [a] <+: acts) (hb' : before' ++ [a'] <+: acts)
    (h : (run setup before).TearsDown ((run setup before).act a) g failure)
    (h' : (run setup before').TearsDown ((run setup before').act a') g failure') :
    before = before' := by
  rcases Nat.lt_trichotomy before.length before'.length with hlt | heq | hlt
  · have hp : before ++ [a] <+: before' :=
      List.prefix_of_prefix_length_le hb ((List.prefix_append _ _).trans hb') (by
        rw [List.length_append]
        exact hlt)
    obtain ⟨between, rfl⟩ := hp
    exact (h.no_later setup h').elim
  · have hp : before <+: before' :=
      List.prefix_of_prefix_length_le ((List.prefix_append _ _).trans hb)
        ((List.prefix_append _ _).trans hb') (Nat.le_of_eq heq)
    exact hp.eq_of_length heq
  · have hp : before' ++ [a'] <+: before :=
      List.prefix_of_prefix_length_le hb' ((List.prefix_append _ _).trans hb) (by
        rw [List.length_append]
        exact hlt)
    obtain ⟨between, rfl⟩ := hp
    exact (h'.no_later setup h).elim

/-- **In every run a connection that was given up cannot interfere.** Only the connection that is
held is not closed, and what is told under the present generation comes from it. On a connection
that was given up nothing is written or read any more, and it is never held again. A world without
any of the notices that such connections have sent goes through all that this one goes through, and
the other way round: they differ in nothing but these notices, at every moment. Each teardown is one
of the connection that is held, and no connection is torn down twice. -/
theorem discarded_cannot_interfere :
    (∀ g, (run setup acts).isClosed? g = some false ↔ (run setup acts).session.held = some g) ∧
    (∀ g, (run setup acts).session.held = some g → g = (run setup acts).session.generation) ∧
    (∀ p ∈ (run setup acts).notices, p.1 = (run setup acts).session.generation →
      (run setup acts).session.held = some p.1) ∧
    (∀ g l, (run setup acts).link? g = some l → (run setup acts).session.held ≠ some g →
      ∀ more, ((run setup acts).all more).session.held ≠ some g ∧
        ∃ es : List (Event H),
          ((run setup acts).all more).history = (run setup acts).history ++ es ∧
            ∀ e ∈ es, e.isOn g = false) ∧
    (∀ ns, Pruned (fun g => (run setup acts).session.held ≠ some g) (run setup acts).notices ns →
      (∀ l, ∃ m, (run setup acts).Alongside ((run setup acts).withNotices ns) l m) ∧
        ∀ m, ∃ l, (run setup acts).Alongside ((run setup acts).withNotices ns) l m) ∧
    (∀ a e, e ∈ ((run setup acts).act a).history.drop (run setup acts).history.length →
      e.tellsTeardown = true →
      ∃ g failure, (run setup acts).TearsDown ((run setup acts).act a) g failure) ∧
    (∀ before a before' a' g failure failure', before ++ [a] <+: acts → before' ++ [a'] <+: acts →
      (run setup before).TearsDown ((run setup before).act a) g failure →
      (run setup before').TearsDown ((run setup before').act a') g failure' →
      before = before') := by
  have hg := generations_run setup acts
  refine ⟨fun g => hg.isClosed?_eq_false_iff, fun g hheld => (hg.held g hheld).1,
    fun p hp hgen => ?_, fun g l hl hne more => ?_, fun ns hp => ?_,
    fun a e he => tearsDown_of_mem setup acts he,
    fun before a before' a' g failure failure' => tearsDown_unique setup acts⟩
  · rcases hg.notices p hp with hheld | hlt
    · exact hheld
    · omega
  · have hlt := hg.lt_of_held_ne hl hne
    exact ⟨held_ne_all setup acts hlt more, silent_all setup acts hlt more⟩
  · have hsame : (run setup acts).SameBut ((run setup acts).withNotices ns) := by
      refine ⟨ns, rfl, hp.mono fun p hp hne => ?_⟩
      exact (hg.notices p hp).resolve_left hne
    exact ⟨hsame.forth, hsame.back⟩

end Runs

/-- A connection that tells of a response that did not come, and then of its end. -/
def sampleErrors : List (Act Nat) :=
  sampleLogin ++ [.submit (.named "listPrinter") 1, .step, .linkStep 1, .linkStep 1, .elapse 5000,
    .linkStep 1, .arrive 1 .ended, .linkStep 1]

/-- The second failure is still in the channel after the teardown, and it does nothing. -/
theorem sampleErrors_tornDown_once :
    (run sampleSetup (sampleErrors ++ [.step])).notices =
      [(1, .failed (.connectionClosed none "stream ended"))] ∧
    (∀ l, ∃ m, (run sampleSetup (sampleErrors ++ [.step])).Alongside
      ((run sampleSetup (sampleErrors ++ [.step])).withNotices []) l m) ∧
    (∀ more, ((run sampleSetup (sampleErrors ++ [.step])).all more).session.held ≠ some 1) ∧
    (∃ failure, (run sampleSetup sampleErrors).TearsDown
      ((run sampleSetup sampleErrors).act .step) 1 failure) ∧
    ∀ more a failure, ¬ (run sampleSetup (sampleErrors ++ [.step] ++ more)).TearsDown
      ((run sampleSetup (sampleErrors ++ [.step] ++ more)).act a) 1 failure := by
  have hnotices : (run sampleSetup (sampleErrors ++ [.step])).notices =
      [(1, .failed (.connectionClosed none "stream ended"))] := by
    decide +kernel
  have hheld : (run sampleSetup sampleErrors).session.held = some 1 := by decide +kernel
  have hgone : (run sampleSetup (sampleErrors ++ [.step])).session.held = none := by decide +kernel
  have hlink : ((run sampleSetup (sampleErrors ++ [.step])).link? 1).isSome = true := by
    decide +kernel
  have hstage : ((run sampleSetup sampleErrors).act .step).stage = .running := by decide +kernel
  have hne : (run sampleSetup (sampleErrors ++ [.step])).session.held ≠ some 1 := by
    rw [hgone]
    simp
  obtain ⟨l, hl⟩ := Option.isSome_iff_exists.1 hlink
  obtain ⟨failure, ht⟩ : ∃ failure, (run sampleSetup sampleErrors).TearsDown
      ((run sampleSetup sampleErrors).act .step) 1 failure := by
    rw [run_concat] at hne
    refine (tearsDown_of_givesUp sampleSetup sampleErrors hheld hne).resolve_left ?_
    rw [hstage]
    decide
  obtain ⟨-, -, -, hsilent, halone, -⟩ :=
    discarded_cannot_interfere sampleSetup (sampleErrors ++ [.step])
  refine ⟨hnotices, ?_, fun more => (hsilent 1 l hl hne more).1, ⟨failure, ht⟩, ?_⟩
  · refine (halone [] ?_).1
    rw [hnotices]
    exact .remove hne .nil
  · intro more a failure' ht'
    obtain ⟨-, -, -, -, -, -, hunique⟩ :=
      discarded_cannot_interfere sampleSetup (sampleErrors ++ [.step] ++ more ++ [a])
    have heq := hunique sampleErrors .step _ a 1 failure failure' ⟨more ++ [a], by simp⟩
      (List.prefix_refl _) ht ht'
    have hlength := congrArg List.length heq
    simp at hlength

end World

end PrintClient.Session
