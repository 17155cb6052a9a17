import PrintClient.Proofs.Session.Turns

/-!
# Notices of connections that are no longer held

The notices that a connection has sent before it was given up stay in the channel. A world without
some of them goes on just as the world with them: only the steps are missing in which the session
passes over what is not there.

* `Pruned`: a list of notices without some old ones;
* `World.SameBut`: two worlds that differ only in such notices;
* `World.Alongside`: two such worlds go on together, and they are such at every moment;
* `advance_withNotices`, `heed_withNotices`, `obey_withNotices`, `act_withNotices`: what is done
  does not depend on the notices that wait;
* `SameBut.forth`, `SameBut.back`: whatever one of the two worlds goes through, the other one goes
  through alongside.
-/

namespace PrintClient.Session

variable {H : Type}

/-- `m` is `l` without some notices of generations that are `gone`. -/
inductive Pruned (gone : Nat → Prop) : List (Nat × Notice) → List (Nat × Notice) → Prop
  | nil : Pruned gone [] []
  | keep (p : Nat × Notice) {l m : List (Nat × Notice)} :
      Pruned gone l m → Pruned gone (p :: l) (p :: m)
  | remove {p : Nat × Notice} {l m : List (Nat × Notice)} (old : gone p.1) :
      Pruned gone l m → Pruned gone (p :: l) m

namespace Pruned

variable {gone gone' : Nat → Prop} {l m : List (Nat × Notice)}

theorem refl (gone : Nat → Prop) (l : List (Nat × Notice)) : Pruned gone l l := by
  induction l with
  | nil => exact .nil
  | cons p l ih => exact .keep p ih

theorem mono (h : Pruned gone l m) (himp : ∀ p ∈ l, gone p.1 → gone' p.1) : Pruned gone' l m := by
  induction h with
  | nil => exact .nil
  | keep p _ ih => exact .keep p (ih fun p' hp' => himp p' (List.mem_cons_of_mem p hp'))
  | @remove p _ _ old _ ih =>
    refine .remove (himp p List.mem_cons_self old) (ih fun p' hp' => ?_)
    exact himp p' (List.mem_cons_of_mem p hp')

theorem older {n n' : Nat} (h : Pruned (· < n) l m) (hle : n ≤ n') : Pruned (· < n') l m :=
  h.mono fun _ _ hlt => Nat.lt_of_lt_of_le hlt hle

theorem append (h : Pruned gone l m) (more : List (Nat × Notice)) :
    Pruned gone (l ++ more) (m ++ more) := by
  induction h with
  | nil => exact .refl gone more
  | keep p _ ih => exact .keep p ih
  | remove old _ ih => exact .remove old ih

end Pruned

namespace World

/-! ### What does not depend on the notices that wait -/

/-- The world with other notices in the channel. -/
def withNotices (w : World H) (notices : List (Nat × Notice)) : World H := { w with notices }

section With

variable (w : World H) (ns : List (Nat × Notice))

@[simp] theorem session_withNotices : (w.withNotices ns).session = w.session := rfl

@[simp] theorem link?_withNotices (g : Nat) : (w.withNotices ns).link? g = w.link? g := rfl

@[simp] theorem stage_withNotices : (w.withNotices ns).stage = w.stage := rfl

theorem updateLink_withNotices (g : Nat) (f : SessionLink H → SessionLink H) :
    (w.withNotices ns).updateLink g f = (w.updateLink g f).withNotices ns := by
  unfold updateLink
  rw [link?_withNotices]
  cases w.link? g with
  | none => rfl
  | some l => rfl

theorem advance_withNotices : (w.withNotices ns).advance = w.advance.withNotices ns := by
  unfold advance
  rw [session_withNotices]
  cases w.session.inFlight with
  | some q => rfl
  | none =>
    cases w.session.held with
    | none => rfl
    | some g =>
      cases w.session.queue with
      | nil => rfl
      | cons head rest =>
        simp only [link?_withNotices]
        split
        · cases w.link? g with
          | none => rfl
          | some l =>
            dsimp only
            cases l.connection.send head.request head.reply with
            | ok c => rfl
            | error failure => rfl
        · rfl

theorem discard_withNotices : (w.withNotices ns).discard = w.discard.withNotices ns := by
  unfold discard
  rw [session_withNotices]
  cases w.session.held with
  | none => rfl
  | some g =>
    dsimp only [updateConnection]
    rw [updateLink_withNotices]
    rfl

theorem fail_withNotices (failure : Failure) :
    (w.withNotices ns).fail failure = (w.fail failure).withNotices ns := by
  unfold fail
  rw [discard_withNotices]
  rfl

theorem complete_withNotices (data : Json) :
    (w.withNotices ns).complete data = (w.complete data).withNotices ns := by
  unfold complete
  rw [session_withNotices]
  cases w.session.inFlight with
  | none => rfl
  | some q =>
    dsimp only
    split
    · split
      · exact advance_withNotices
          (loggedIn { w with session := { w.session with inFlight := none } }) ns
      · exact fail_withNotices { w with session := { w.session with inFlight := none } } ns _
    · exact advance_withNotices
        (note { w with session := { w.session with inFlight := none } } [.replied _ data]) ns

theorem heed_withNotices (notice : Notice) :
    (w.withNotices ns).heed notice = (w.heed notice).withNotices ns := by
  cases notice with
  | handshaked =>
    show (w.withNotices ns).greet = w.greet.withNotices ns
    rw [greet_eq, greet_eq]
    exact advance_withNotices (note { w with session := _ } [.entered .awaitingLogin]) ns
  | completed data => exact w.complete_withNotices ns data
  | failed failure => exact w.fail_withNotices ns failure
  | event e => rfl

theorem obey_withNotices (command : Command H) :
    (w.withNotices ns).obey command = (w.obey command).withNotices ns := by
  cases command with
  | submit request handler =>
    exact advance_withNotices
      (note { w with session := w.session.enqueue request handler } [.taken request handler]) ns
  | subscribe event handler =>
    unfold obey
    dsimp only
    rw [session_withNotices]
    split
    · split
      · exact updateLink_withNotices { w with session := w.session.subscribe event handler } ns _ _
      · rfl
    · rfl
  | onDisconnect handler => rfl
  | onLogin handler => rfl

theorem notices_heed (notice : Notice) : (w.heed notice).notices = w.notices := by
  have h := congrArg World.notices (w.heed_withNotices w.notices notice)
  exact h

theorem notices_obey (command : Command H) : (w.obey command).notices = w.notices := by
  have h := congrArg World.notices (w.obey_withNotices w.notices command)
  exact h

theorem stop_withNotices : (w.withNotices ns).stop = w.stop := by
  unfold stop
  rw [discard_withNotices]
  rfl

theorem hear_withNotices (g : Nat) (effects : List (Connection.Effect (Reply H) String)) :
    ∃ new, ∀ ns, (w.withNotices ns).hear g effects =
      (w.hear g effects).withNotices (ns ++ new) := by
  cases hs : w.stage with
  | ended => exact ⟨[], fun ns => by simp [hear, note, hs, withNotices]⟩
  | _ =>
    exact ⟨(effects.filterMap noticeOf).map fun n => (g, n), fun ns => by
      simp [hear, note, hs, withNotices]⟩

theorem linkStep_withNotices (g : Nat) :
    ∃ new, ∀ ns, (w.withNotices ns).act (.linkStep g) =
      (w.act (.linkStep g)).withNotices (ns ++ new) := by
  cases hl : w.link? g with
  | none => exact ⟨[], fun ns => by simp [act, linkStep?, hl]⟩
  | some l =>
    cases hs : l.step? w.clock with
    | none =>
      refine ⟨[], fun ns => ?_⟩
      have hclock : (w.withNotices ns).clock = w.clock := rfl
      simp [act, linkStep?, hl, hclock, hs]
    | some done =>
      obtain ⟨new, hv⟩ := (w.setLink g done.1).hear_withNotices g done.2
      refine ⟨new, fun ns => ?_⟩
      have hclock : (w.withNotices ns).clock = w.clock := rfl
      simp only [act, linkStep?, link?_withNotices, hl, hclock, hs]
      exact hv ns

theorem command_withNotices (command : Command H) :
    (w.withNotices ns).command command = (w.command command).map (withNotices · ns) := by
  unfold World.command
  rw [stage_withNotices]
  cases w.stage <;> rfl

theorem tryCommand_withNotices (command : Command H) (handler : H) :
    (w.withNotices ns).tryCommand command handler =
      (w.tryCommand command handler).withNotices ns := by
  unfold tryCommand
  rw [command_withNotices]
  cases w.command command <;> rfl

theorem submit_withNotices (request : Request) (handler : H) :
    (w.withNotices ns).submit request handler = (w.submit request handler).withNotices ns := by
  unfold submit
  rw [command_withNotices]
  cases w.command (.submit request handler) <;> rfl

/-- An act other than a step of the session adds to the notices, whatever they are. -/
theorem act_withNotices {a : Act H} (ha : a ≠ .step) :
    ∃ new, ∀ ns, (w.withNotices ns).act a = (w.act a).withNotices (ns ++ new) := by
  have hnone : (∀ ns, (w.withNotices ns).act a = (w.act a).withNotices ns) →
      ∃ new, ∀ ns, (w.withNotices ns).act a = (w.act a).withNotices (ns ++ new) :=
    fun h => ⟨[], fun ns => by rw [h, List.append_nil]⟩
  cases a with
  | linkStep g => exact w.linkStep_withNotices g
  | step => exact absurd rfl ha
  | submit request handler => exact hnone fun ns => w.submit_withNotices ns request handler
  | subscribe event handler => exact hnone fun ns => w.tryCommand_withNotices ns _ handler
  | onDisconnect handler => exact hnone fun ns => w.tryCommand_withNotices ns _ handler
  | onLogin handler => exact hnone fun ns => w.tryCommand_withNotices ns _ handler
  | offer g outcome => exact hnone fun ns => w.updateLink_withNotices ns g _
  | arrive g i => exact hnone fun ns => w.updateLink_withNotices ns g _
  | breakWrites g reason => exact hnone fun ns => w.updateLink_withNotices ns g _
  | stall g => exact hnone fun ns => w.updateLink_withNotices ns g _
  | resume g => exact hnone fun ns => w.updateLink_withNotices ns g _
  | shutdown => exact hnone fun _ => rfl
  | clone => exact hnone fun _ => rfl
  | drop => exact hnone fun _ => rfl
  | elapse milliseconds => exact hnone fun _ => rfl

end With

/-! ### Worlds without old notices -/

/-- `v` is `w` without some notices of earlier generations. -/
def SameBut (w v : World H) : Prop :=
  ∃ ns, v = w.withNotices ns ∧ Pruned (· < w.session.generation) w.notices ns

/-- The first world goes through the acts `l` and the second one through the acts `m`, and they
differ only in old notices all the time. The first one takes some steps of the session in addition.
-/
inductive Alongside : World H → World H → List (Act H) → List (Act H) → Prop
  | nil {w v : World H} (same : w.SameBut v) : Alongside w v [] []
  | both {w v : World H} {a : Act H} {l m : List (Act H)} (same : w.SameBut v) :
      Alongside (w.act a) (v.act a) l m → Alongside w v (a :: l) (a :: m)
  | alone {w v : World H} {l m : List (Act H)} (same : w.SameBut v) :
      Alongside (w.act .step) v l m → Alongside w v (.step :: l) m

variable {w v : World H}

theorem SameBut.refl (w : World H) : w.SameBut w := ⟨w.notices, rfl, .refl _ _⟩

section Runs

variable {setup : Setup H} {acts : List (Act H)}

theorem SameBut.act_of_ne (h : (run setup acts).SameBut v) {a : Act H} (ha : a ≠ .step) :
    ((run setup acts).act a).SameBut (v.act a) := by
  obtain ⟨ns, rfl, hp⟩ := h
  obtain ⟨new, hnew⟩ := (run setup acts).act_withNotices ha
  have hself : (run setup acts).act a = ((run setup acts).act a).withNotices _ :=
    hnew (run setup acts).notices
  refine ⟨ns ++ new, hnew ns, ?_⟩
  rw [hself]
  exact (hp.append new).older (generation_le_of_act setup acts a)

/-- The session takes a command, whatever the notices are. -/
theorem act_step_of_command {command : Command H} {rest : List (Command H)}
    (hs : w.stage = .running) (hc : w.cancelled = false)
    (hcommands : w.commands = command :: rest) :
    w.act .step = { w with commands := rest }.obey command := by
  simp [act, step?, runStep?, hs, hc, hcommands]

/-- A session that has no commands left takes a notice. -/
theorem act_step_of_notice {g : Nat} {notice : Notice} {rest : List (Nat × Notice)}
    (hs : w.stage = .running) (hc : w.cancelled = false) (hcommands : w.commands = [])
    (hh : w.handles ≠ 0) (hn : w.notices = (g, notice) :: rest) :
    w.act .step = if g = w.session.generation then (w.withNotices rest).heed notice
      else w.withNotices rest := by
  simp [act, step?, runStep?, hs, hc, hcommands, hh, hn, withNotices]

/-- The first notice is taken in both worlds, or it is one that the second world does not have. -/
theorem step_of_pruned {ns : List (Nat × Notice)}
    (hp : Pruned (· < w.session.generation) w.notices ns)
    (hle : w.session.generation ≤ (w.act .step).session.generation) (hs : w.stage = .running)
    (hc : w.cancelled = false) (hcommands : w.commands = []) (hh : w.handles ≠ 0) :
    (w.act .step).SameBut ((w.withNotices ns).act .step) ∨
      (w.act .step).SameBut (w.withNotices ns) ∧
        (w.act .step).notices.length < w.notices.length := by
  generalize hn : w.notices = l at hp
  cases hp with
  | nil =>
    left
    rw [show w.withNotices [] = w from hn ▸ rfl]
    exact .refl _
  | @keep p l m hp =>
    left
    obtain ⟨g, notice⟩ := p
    have hw := act_step_of_notice hs hc hcommands hh hn
    have hv := act_step_of_notice (w := w.withNotices ((g, notice) :: m)) hs hc hcommands hh rfl
    by_cases hg : g = w.session.generation
    · rw [hw, if_pos hg] at hle
      rw [hw, if_pos hg, hv.trans (if_pos hg)]
      refine ⟨m, (w.withNotices l).heed_withNotices m notice, ?_⟩
      rw [notices_heed]
      exact hp.older hle
    · rw [hw, if_neg hg, hv.trans (if_neg hg)]
      exact ⟨m, rfl, hp⟩
  | @remove p l _ old hp =>
    right
    obtain ⟨g, notice⟩ := p
    rw [act_step_of_notice hs hc hcommands hh hn, if_neg (Nat.ne_of_lt old)]
    exact ⟨⟨ns, rfl, hp⟩, Nat.lt_succ_self _⟩

/-- A session at work ends, or takes a command, in both worlds alike; the rest are notices. -/
theorem step_of_running {ns : List (Nat × Notice)}
    (hp : Pruned (· < w.session.generation) w.notices ns)
    (hle : w.session.generation ≤ (w.act .step).session.generation) (hs : w.stage = .running) :
    (w.act .step).SameBut ((w.withNotices ns).act .step) ∨
      (w.act .step).SameBut (w.withNotices ns) ∧
        (w.act .step).notices.length < w.notices.length := by
  have hequal : (w.withNotices ns).act .step = w.act .step →
      (w.act .step).SameBut ((w.withNotices ns).act .step) := by
    intro hv
    rw [hv]
    exact .refl _
  have hs' : (w.withNotices ns).stage = .running := hs
  cases hc : w.cancelled with
  | true =>
    left
    apply hequal
    have hc' : (w.withNotices ns).cancelled = true := hc
    simp [act, step?, runStep?, hs, hc, hc', stop_withNotices]
  | false =>
    have hc' : (w.withNotices ns).cancelled = false := hc
    cases hcommands : w.commands with
    | cons command rest =>
      left
      have hcommands' : (w.withNotices ns).commands = command :: rest := hcommands
      rw [act_step_of_command hs hc hcommands] at hle ⊢
      rw [act_step_of_command hs' hc' hcommands']
      refine ⟨ns, obey_withNotices { w with commands := rest } ns command, ?_⟩
      rw [notices_obey]
      exact hp.older hle
    | nil =>
      by_cases hh : w.handles = 0
      · left
        apply hequal
        have hcommands' : (w.withNotices ns).commands = [] := hcommands
        have hh' : (w.withNotices ns).handles = 0 := hh
        simp [act, step?, runStep?, hs, hc, hc', hcommands, hcommands', hh, hh', stop_withNotices]
      · exact step_of_pruned hp hle hs hc hcommands hh

/-- The two worlds take the same step, or the session passes over a notice that the other world does
not have. -/
theorem SameBut.step (h : (run setup acts).SameBut v) :
    ((run setup acts).act .step).SameBut (v.act .step) ∨
      ((run setup acts).act .step).SameBut v ∧
        ((run setup acts).act .step).notices.length < (run setup acts).notices.length := by
  obtain ⟨ns, rfl, hp⟩ := h
  have hle := generation_le_of_act setup acts .step
  generalize run setup acts = w at hp hle ⊢
  cases hs : w.stage with
  | starting =>
    left
    have hw : w.act .step = ({ w with stage := .running } : World H).connect := by
      simp [act, step?, hs]
    have hv : (w.withNotices ns).act .step =
        ({ w with stage := .running } : World H).connect.withNotices ns := by
      simp only [act, step?, stage_withNotices, hs, Option.getD_some]
      rfl
    rw [hw] at hle
    rw [hv, hw]
    exact ⟨ns, rfl, hp.older hle⟩
  | running => exact step_of_running hp hle hs
  | ended =>
    left
    have hw : w.act .step = w := by simp [act, step?, hs]
    have hv : (w.withNotices ns).act .step = w.withNotices ns := by simp [act, step?, hs]
    rw [hv, hw]
    exact ⟨ns, rfl, hp⟩

/-- **What a world goes through, the world without some old notices goes through alongside.** -/
theorem SameBut.forth (h : (run setup acts).SameBut v) (l : List (Act H)) :
    ∃ m, (run setup acts).Alongside v l m := by
  induction l generalizing acts v with
  | nil => exact ⟨[], .nil h⟩
  | cons a l ih =>
    have hnext : ∀ {v' : World H}, ((run setup acts).act a).SameBut v' →
        ∃ m, ((run setup acts).act a).Alongside v' l m := by
      intro v' hv'
      rw [← run_concat] at hv' ⊢
      exact ih hv'
    by_cases ha : a = .step
    · subst ha
      rcases h.step with hboth | ⟨hskip, -⟩
      · obtain ⟨m, hm⟩ := hnext hboth
        exact ⟨.step :: m, .both h hm⟩
      · obtain ⟨m, hm⟩ := hnext hskip
        exact ⟨m, .alone h hm⟩
    · obtain ⟨m, hm⟩ := hnext (h.act_of_ne ha)
      exact ⟨a :: m, .both h hm⟩

/-- The session passes over the notices that the other world does not have, then takes its step. -/
theorem SameBut.catchUp (h : (run setup acts).SameBut v) {m : List (Act H)}
    (hnext : ∀ acts', (run setup acts').SameBut (v.act .step) →
      ∃ l, (run setup acts').Alongside (v.act .step) l m) :
    ∃ l, (run setup acts).Alongside v l (.step :: m) := by
  -- The induction is on the number of notices, which falls with each that is passed over.
  generalize hn : (run setup acts).notices.length = n
  induction n using Nat.strongRecOn generalizing acts with
  | ind n ih =>
    rcases h.step with hboth | ⟨hskip, hlt⟩
    · rw [← run_concat] at hboth
      obtain ⟨l, hl⟩ := hnext _ hboth
      rw [run_concat] at hl
      exact ⟨.step :: l, .both h hl⟩
    · rw [← run_concat] at hskip hlt
      obtain ⟨l, hl⟩ := ih _ (hn ▸ hlt) hskip rfl
      rw [run_concat] at hl
      exact ⟨.step :: l, .alone h hl⟩

/-- **What a world without some old notices goes through, the world with them goes through
alongside.** -/
theorem SameBut.back (h : (run setup acts).SameBut v) (m : List (Act H)) :
    ∃ l, (run setup acts).Alongside v l m := by
  induction m generalizing acts v with
  | nil => exact ⟨[], .nil h⟩
  | cons a m ih =>
    by_cases ha : a = .step
    · subst ha
      exact h.catchUp fun acts' h' => ih h'
    · have hnext := h.act_of_ne ha
      rw [← run_concat] at hnext
      obtain ⟨l, hl⟩ := ih hnext
      rw [run_concat] at hl
      exact ⟨a :: l, .both h hl⟩

end Runs

end World

end PrintClient.Session
