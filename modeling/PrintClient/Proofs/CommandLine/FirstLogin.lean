import Mathlib.Data.List.Basic
import Mathlib.Data.List.Induction
import PrintClient.CommandLine.Login
import PrintClient.Proofs.Session.FirstFailure

/-!
# Waiting for the first login

A command that waits for the first login of its session finds one of three signs: the session is
logged in, a failure was told of, or the time is over. It takes any of those that it finds at once,
and a session that failed connects again on its own. So what the command takes for the first login
may be a later one, unless the command looks as soon as there is a sign.

* `Resolved.setup`, `LoginWait.after`: a command and its session after a list of acts and looks;
* `Shows`, `Quiet`: the signs that can be found in a session; no two appear at once;
* `Prompt`: a command that looks as soon as there is a sign;
* `Verdict`: what a command makes of a sign, and what the sign stands for;
* `FirstSign`: no other sign can be found, and none could earlier;
* `Decided`, `first_sign_decides`: how a wait ends;
* `late_signs_win`: a command that is late goes on after a failure, or fails after its time.
-/

namespace PrintClient.CommandLine

open Session (World)

/-- What is in place before the first attempt of the session of a command. -/
def Resolved.setup (r : Resolved) : Session.Setup Handler :=
  ⟨r.endpoint, r.session, [], [.failures], []⟩

theorem firstFailure?_eq (w : World Handler) : firstFailure? w = w.failure? := by
  rw [World.failure?, World.history, List.findSome?_map, firstFailure?]
  congr 1
  funext e
  obtain ⟨time, event⟩ := e
  cases event <;> rfl

/-- The act on the session, if it is one. -/
def LoginAct.act? : LoginAct → Option (Session.Act Handler)
  | .world a => some a
  | .look _ => none

/-- The acts on the session. -/
def worldActs (acts : List LoginAct) : List (Session.Act Handler) := acts.filterMap LoginAct.act?

@[simp] theorem worldActs_append (acts more : List LoginAct) :
    worldActs (acts ++ more) = worldActs acts ++ worldActs more :=
  List.filterMap_append

namespace LoginWait

/-- The wait of a command after a list of things has happened. -/
def after (r : Resolved) (patience : Nat) (acts : List LoginAct) : LoginWait :=
  (start r patience).all acts

section Waits

variable {r : Resolved} {patience : Nat} {acts : List LoginAct}

theorem after_append (more : List LoginAct) :
    after r patience (acts ++ more) = (after r patience acts).all more :=
  List.foldl_append

theorem after_concat (a : LoginAct) :
    after r patience (acts ++ [a]) = (after r patience acts).act a :=
  after_append [a]

theorem look_of_ended (l : LoginWait) {e : Except Problem Unit} (h : l.ending = some e)
    (sign : Sign) : l.look sign = l := by
  simp only [look, h]

theorem look_of_find?_eq_none (l : LoginWait) {sign : Sign} (h : l.find? sign = none) :
    l.look sign = l := by
  unfold look
  rw [h]
  split <;> simp_all

theorem look_of_find? (l : LoginWait) {sign : Sign} {e : Except Problem Unit}
    (hn : l.ending = none) (h : l.find? sign = some e) : l.look sign =
      { l with
        ending := some e
        world := if endsSession sign then l.world.act .shutdown else l.world } := by
  simp only [look, hn, h]

theorem resolved_look (l : LoginWait) (sign : Sign) :
    (l.look sign).resolved = l.resolved ∧ (l.look sign).patience = l.patience := by
  unfold look
  split <;> exact ⟨rfl, rfl⟩

/-- A look changes nothing, or it ends the wait. -/
theorem look_cases (l : LoginWait) (sign : Sign) : l.look sign = l ∨
    ∃ e, l.ending = none ∧ l.find? sign = some e ∧ (l.look sign).ending = some e := by
  cases hn : l.ending with
  | some e => exact .inl (l.look_of_ended hn sign)
  | none =>
    cases hf : l.find? sign with
    | none => exact .inl (l.look_of_find?_eq_none hf)
    | some e => exact .inr ⟨e, rfl, rfl, by rw [l.look_of_find? hn hf]⟩

/-- An ended wait stays so. -/
theorem ending_append {e : Except Problem Unit} (h : (after r patience acts).ending = some e)
    (more : List LoginAct) : (after r patience (acts ++ more)).ending = some e := by
  induction more using List.reverseRecOn with
  | nil => rwa [List.append_nil]
  | append_singleton more a ih =>
    rw [← List.append_assoc, after_concat]
    cases a with
    | world a => exact ih
    | look sign =>
      show ((after r patience (acts ++ more)).look sign).ending = some e
      rw [look_of_ended _ ih]
      exact ih

/-- A wait that goes on has not ended before. -/
theorem ending_of_append {more : List LoginAct}
    (h : (after r patience (acts ++ more)).ending = none) :
    (after r patience acts).ending = none := by
  cases he : (after r patience acts).ending with
  | none => rfl
  | some e =>
    rw [ending_append he] at h
    cases h

/-- What the command is about stays the same. -/
theorem resolved_after (r : Resolved) (patience : Nat) (acts : List LoginAct) :
    (after r patience acts).resolved = r ∧ (after r patience acts).patience = patience := by
  induction acts using List.reverseRecOn with
  | nil => exact ⟨rfl, rfl⟩
  | append_singleton acts a ih =>
    rw [after_concat]
    cases a with
    | world a => exact ih
    | look sign =>
      obtain ⟨hr, hp⟩ := (after r patience acts).resolved_look sign
      exact ⟨hr.trans ih.1, hp.trans ih.2⟩

/-- As long as it waits, a command leaves its session alone. -/
theorem world_after (h : (after r patience acts).ending = none) :
    (after r patience acts).world = World.run r.setup (worldActs acts) := by
  induction acts using List.reverseRecOn with
  | nil => rfl
  | append_singleton acts a ih =>
    have hbefore := ih (ending_of_append h)
    rw [after_concat] at h ⊢
    rw [worldActs_append]
    cases a with
    | world a =>
      show (after r patience acts).world.act a = _
      rw [hbefore]
      exact (World.run_concat r.setup (worldActs acts) a).symm
    | look sign =>
      have hnone : worldActs [LoginAct.look sign] = [] := rfl
      rw [hnone, List.append_nil]
      rcases (after r patience acts).look_cases sign with hsame | ⟨e, -, -, he⟩
      · show ((after r patience acts).look sign).world = _
        rw [hsame]
        exact hbefore
      · rw [show ((after r patience acts).act (.look sign)).ending = some e from he] at h
        cases h

/-- A wait ends with what the command finds in one of its looks. -/
theorem exists_look {e : Except Problem Unit} (h : (after r patience acts).ending = some e) :
    ∃ earlier sign later, acts = earlier ++ .look sign :: later ∧
      (after r patience earlier).ending = none ∧
      (after r patience earlier).find? sign = some e := by
  induction acts using List.reverseRecOn with
  | nil => cases h
  | append_singleton acts a ih =>
    have hlater : (∃ earlier sign later, acts = earlier ++ .look sign :: later ∧
        (after r patience earlier).ending = none ∧
        (after r patience earlier).find? sign = some e) →
        ∃ earlier sign later, acts ++ [a] = earlier ++ .look sign :: later ∧
          (after r patience earlier).ending = none ∧
          (after r patience earlier).find? sign = some e := by
      rintro ⟨earlier, sign, later, rfl, hn, hf⟩
      exact ⟨earlier, sign, later ++ [a], by simp, hn, hf⟩
    rw [after_concat] at h
    cases a with
    | world a => exact hlater (ih h)
    | look sign =>
      rcases (after r patience acts).look_cases sign with hsame | ⟨e', hn, hf, he⟩
      · have hsame : (after r patience acts).act (.look sign) = after r patience acts := hsame
        rw [hsame] at h
        exact hlater (ih h)
      · have heq : e' = e := Option.some.inj (he.symm.trans h)
        exact ⟨acts, sign, [], rfl, hn, heq ▸ hf⟩

/-- That a command has shut its session down is not taken back. -/
theorem cancelled_of_look {earlier later : List LoginAct} {sign : Sign} {e : Except Problem Unit}
    (hn : (after r patience earlier).ending = none)
    (hf : (after r patience earlier).find? sign = some e) (hs : endsSession sign = true) :
    (after r patience (earlier ++ .look sign :: later)).world.cancelled = true := by
  have hlooked : after r patience (earlier ++ [.look sign]) =
      { after r patience earlier with
        ending := some e
        world := (after r patience earlier).world.act .shutdown } := by
    rw [after_concat]
    exact (look_of_find? _ hn hf).trans (by rw [if_pos hs])
  have hend : (after r patience (earlier ++ [.look sign])).ending = some e := by rw [hlooked]
  rw [← List.singleton_append, ← List.append_assoc]
  induction later using List.reverseRecOn with
  | nil =>
    rw [List.append_nil, hlooked]
    rfl
  | append_singleton later a ih =>
    rw [← List.append_assoc, after_concat]
    cases a with
    | world a => exact World.cancelled_act ih a
    | look sign' =>
      show ((after r patience (earlier ++ [.look sign] ++ later)).look sign').world.cancelled = true
      rw [look_of_ended _ (ending_append hend later)]
      exact ih

end Waits

end LoginWait

/-! ### Signs -/

/-- A sign can be found in a session. -/
def Shows (patience : Nat) (w : World Handler) : Sign → Prop
  | .connected => w.session.state = .connected
  | .failure => w.failure? ≠ none
  | .timeout => patience * 1000 ≤ w.clock

/-- No sign can be found in a session. -/
def Quiet (patience : Nat) (w : World Handler) : Prop := ∀ sign, ¬ Shows patience w sign

instance (patience : Nat) (w : World Handler) : DecidablePred (Shows patience w)
  | .connected => inferInstanceAs (Decidable (w.session.state = .connected))
  | .failure => inferInstanceAs (Decidable (w.failure? ≠ none))
  | .timeout => inferInstanceAs (Decidable (patience * 1000 ≤ w.clock))

theorem quiet_iff {patience : Nat} {w : World Handler} : Quiet patience w ↔
    ¬ Shows patience w .connected ∧ ¬ Shows patience w .failure ∧ ¬ Shows patience w .timeout := by
  refine ⟨fun h => ⟨h _, h _, h _⟩, fun ⟨hconnected, hfailure, htimeout⟩ sign => ?_⟩
  cases sign with
  | connected => exact hconnected
  | failure => exact hfailure
  | timeout => exact htimeout

instance (patience : Nat) (w : World Handler) : Decidable (Quiet patience w) :=
  decidable_of_iff _ quiet_iff.symm

section Signs

variable {patience : Nat} {w w' : World Handler}

/-- At the start the time may be over, and there is no other sign. -/
theorem eq_timeout_of_start {setup : Session.Setup Handler} {sign : Sign}
    (h : Shows patience (World.run setup []) sign) : sign = .timeout := by
  cases sign with
  | connected =>
    obtain ⟨subscriptions, hsession⟩ := setup.session_eq
    have hstate : setup.session.state = .connected := h
    rw [hsession] at hstate
    cases hstate
  | failure => exact absurd rfl h
  | timeout => rfl

/-- What the session does not take part in makes the time be over, if anything. -/
theorem eq_timeout_of_aside {delay : Nat} {handed : List (Session.Command Handler)}
    (haside : w.Aside w' delay handed) (hquiet : Quiet patience w) {sign : Sign}
    (h : Shows patience w' sign) : sign = .timeout := by
  cases sign with
  | connected =>
    have hstate : w'.session.state = .connected := h
    rw [haside.session] at hstate
    exact absurd hstate (hquiet .connected)
  | failure =>
    obtain ⟨es, hes, hh⟩ := haside.history
    have hnone : w.failure? = none := not_not.1 (hquiet .failure)
    refine absurd ?_ h
    rw [World.failure?_of_history hh, hnone, World.failure?_of_not_own hes]
    rfl
  | timeout => rfl

/-- A turn of the session logs it in or fails it, but not both, and takes no time. -/
theorem exists_only_sign_of_turn {o : World.Outcome Handler} (hturn : w.Turn o)
    (htook : w.Took w' o) (hquiet : Quiet patience w) :
    ∃ only, ∀ sign, Shows patience w' sign → sign = only := by
  have hclock : ¬ Shows patience w' .timeout := by
    show ¬ patience * 1000 ≤ w'.clock
    rw [htook.clock]
    exact hquiet .timeout
  rcases hturn.failure?_events with hevents | ⟨g, notice, failure, rest, -, -, -, rfl⟩
  · refine ⟨.connected, fun sign h => ?_⟩
    cases sign with
    | connected => rfl
    | failure =>
      have hnone : w.failure? = none := not_not.1 (hquiet .failure)
      refine absurd ?_ h
      rw [World.failure?_of_history htook.history, hnone, hevents]
      rfl
    | timeout => exact absurd h hclock
  · refine ⟨.failure, fun sign h => ?_⟩
    cases sign with
    | connected => cases htook.session.state.symm.trans h
    | failure => rfl
    | timeout => exact absurd h hclock

/-- **No two signs appear at once.** -/
theorem shows_subsingleton {setup : Session.Setup Handler} {acts : List (Session.Act Handler)}
    (hquiet : ∀ before a, acts = before ++ [a] → Quiet patience (World.run setup before))
    {s s' : Sign} (hs : Shows patience (World.run setup acts) s)
    (hs' : Shows patience (World.run setup acts) s') : s' = s := by
  rcases List.eq_nil_or_concat acts with rfl | ⟨before, a, rfl⟩
  · rw [eq_timeout_of_start hs, eq_timeout_of_start hs']
  · rw [List.concat_eq_append] at hquiet hs hs'
    have hbefore := hquiet before a rfl
    rw [World.run_concat] at hs hs'
    rcases World.act_cases_of_run setup before a with haside | ⟨-, -, o, hturn, htook⟩
    · rw [eq_timeout_of_aside haside hbefore hs, eq_timeout_of_aside haside hbefore hs']
    · obtain ⟨only, honly⟩ := exists_only_sign_of_turn hturn htook hbefore
      rw [honly s hs, honly s' hs']

end Signs

namespace LoginWait

section Verdicts

variable {r : Resolved} {patience : Nat} {acts : List LoginAct}

/-- A command that looks as soon as there is a sign: as long as there is one, nothing happens to its
session, and none is left over. -/
structure Prompt (r : Resolved) (patience : Nat) (acts : List LoginAct) : Prop where
  throughout : Session.Throughout (fun earlier a => a.act? ≠ none →
    (after r patience earlier).ending = none → Quiet patience (after r patience earlier).world) acts
  last : (after r patience acts).ending = none → Quiet patience (after r patience acts).world

/-- What a command makes of a sign that it finds after its session has gone through `before`, and
what this says of the session. -/
inductive Verdict (r : Resolved) (patience : Nat) (before : List (Session.Act Handler)) :
    Sign → Except Problem Unit → Prop
  /-- The login was accepted on the connection that is held. It is the first one unless a failure
  was told of. -/
  | connected {g : Nat} (held : (World.run r.setup before).session.held = some g)
      (login : Session.LoggedIn (World.run r.setup before).history g)
      (first : (World.run r.setup before).failure? = none → g = 1) :
      Verdict r patience before .connected (.ok ())
  | refused {failure : Failure} (failed : World.Happens r.setup before fun w a =>
        w.FailsFirst failure a ∧ w.LoginRefused) :
      Verdict r patience before .failure (.error (.authFailed r.profile))
  | failed {failure : Failure} (failed : World.Happens r.setup before fun w a =>
        w.FailsFirst failure a ∧ ¬ w.LoginRefused) :
      Verdict r patience before .failure
        (.error (.connectionFailed r.endpoint.server failure.message))
  | timeout (isOver : patience * 1000 ≤ (World.run r.setup before).clock) :
      Verdict r patience before .timeout (.error (.timeout patience))

/-- There is this one sign now, and there was none before. -/
structure FirstSign (r : Resolved) (patience : Nat) (before : List (Session.Act Handler))
    (sign : Sign) : Prop where
  now : ∀ s, Shows patience (World.run r.setup before) s ↔ s = sign
  earlier : ∀ acts a later, before = acts ++ a :: later → Quiet patience (World.run r.setup acts)

/-- How the wait of a command ends. -/
structure Decided (r : Resolved) (patience : Nat) (acts : List LoginAct) : Prop where
  /-- The command goes by a sign that it finds, and if it is prompt this is the first one. -/
  verdict : ∀ e, (after r patience acts).ending = some e → ∃ earlier sign later,
    acts = earlier ++ .look sign :: later ∧ (after r patience earlier).ending = none ∧
      Verdict r patience (worldActs earlier) sign e ∧
      (Prompt r patience acts → FirstSign r patience (worldActs earlier) sign)
  /-- As long as it waits, a look ends the wait exactly if the sign is there. -/
  looks : (after r patience acts).ending = none → ∀ sign,
    ((∃ e, (after r patience (acts ++ [.look sign])).ending = some e) ↔
      Shows patience (after r patience acts).world sign)
  /-- With the command its session ends, whatever happens to it before its next steps. -/
  shutdown : ∀ problem, (after r patience acts).ending = some (.error problem) → ∀ more,
    (((after r patience (acts ++ more)).world.act .step).act .step).stage = .ended
  /-- A prompt command waits no longer than until there is a sign. -/
  waits : Prompt r patience acts → (after r patience acts).ending = none →
    ∀ before later, worldActs acts = before ++ later → Quiet patience (World.run r.setup before)

/-! ### Prompt commands -/

/-- A prompt command has not let a sign pass. -/
theorem Prompt.quiet (h : Prompt r patience acts) {earlier later : List LoginAct}
    (hacts : acts = earlier ++ later) (hn : (after r patience earlier).ending = none)
    {before rest : List (Session.Act Handler)} {b : Session.Act Handler}
    (hbefore : worldActs earlier = before ++ b :: rest) :
    Quiet patience (World.run r.setup before) := by
  induction earlier using List.reverseRecOn generalizing later rest with
  | nil => simp [worldActs] at hbefore
  | append_singleton earlier a ih =>
    have hn' := ending_of_append hn
    have hacts' : acts = earlier ++ a :: later := by simp [hacts]
    rw [worldActs_append] at hbefore
    cases a with
    | look sign => exact ih hacts' hn' ((List.append_nil _).symm.trans hbefore)
    | world a =>
      -- The last act is the one after which `before` ends, or it comes later.
      have hlast : worldActs earlier ++ [a] = before ++ b :: rest := hbefore
      rcases List.eq_nil_or_concat rest with rfl | ⟨rest, c, rfl⟩
      · obtain ⟨rfl, -⟩ := List.append_inj' hlast rfl
        rw [← world_after hn']
        exact h.throughout earlier (.world a) ⟨later, hacts.symm⟩ (by simp [LoginAct.act?]) hn'
      · rw [List.concat_eq_append, ← List.cons_append, ← List.append_assoc] at hlast
        exact ih hacts' hn' (List.append_inj' hlast rfl).1

/-- While a prompt command waits there is no sign. -/
theorem Prompt.waits (h : Prompt r patience acts) (hn : (after r patience acts).ending = none)
    {before later : List (Session.Act Handler)} (hbefore : worldActs acts = before ++ later) :
    Quiet patience (World.run r.setup before) := by
  cases later with
  | nil =>
    rw [List.append_nil] at hbefore
    rw [← hbefore, ← world_after hn]
    exact h.last hn
  | cons b rest => exact h.quiet (List.append_nil acts).symm hn hbefore

/-! ### Verdicts -/

section Looks

variable (hforeign : ∀ a ∈ worldActs acts, a.isForeign = true)
  (hn : (after r patience acts).ending = none) {sign : Sign} {e : Except Problem Unit}

include hforeign hn

/-- A command finds a sign exactly if it is there. -/
theorem exists_find?_iff : (∃ e, (after r patience acts).find? sign = some e) ↔
    Shows patience (World.run r.setup (worldActs acts)) sign := by
  have hworld := world_after hn
  have hstage : (World.run r.setup (worldActs acts)).stage ≠ .ended :=
    (World.attended_of_foreign hforeign).2.2
  cases sign with
  | connected =>
    show _ ↔ (World.run r.setup (worldActs acts)).session.state = .connected
    rw [find?, hworld, World.connected?, if_neg hstage]
    split
    · rename_i hstate
      exact iff_of_true ⟨_, rfl⟩ hstate
    · rename_i hstate
      exact iff_of_false (by simp) hstate
  | failure =>
    show _ ↔ (World.run r.setup (worldActs acts)).failure? ≠ none
    rw [find?, hworld, firstFailure?_eq]
    cases (World.run r.setup (worldActs acts)).failure? <;> simp
  | timeout =>
    show _ ↔ patience * 1000 ≤ (World.run r.setup (worldActs acts)).clock
    rw [find?, isOver, hworld, (resolved_after r patience acts).2]
    simp

/-- **A command judges by what there is to find.** -/
theorem verdict_of_find? (hf : (after r patience acts).find? sign = some e) :
    Verdict r patience (worldActs acts) sign e := by
  have hshows := (exists_find?_iff hforeign hn).1 ⟨e, hf⟩
  have hworld := world_after hn
  obtain ⟨hresolved, hpatience⟩ := resolved_after r patience acts
  have htold : r.setup.onDisconnect ≠ [] := List.cons_ne_nil _ _
  cases sign with
  | connected =>
    have hstate : (World.run r.setup (worldActs acts)).session.state = .connected := hshows
    obtain ⟨g, hheld, hlogin, hfirst⟩ := World.login_of_connected htold hstate
    rw [find?, hworld, World.connected?, if_pos hstate] at hf
    cases hf
    exact .connected hheld hlogin hfirst
  | failure =>
    rw [find?, hworld, firstFailure?_eq, Option.map_eq_some_iff] at hf
    obtain ⟨failure, hf, rfl⟩ := hf
    obtain ⟨before, a, later, hacts, hfails⟩ := World.failsFirst_of_failure? htold hforeign hf
    rw [loginProblem, hresolved]
    by_cases hk : failure.kind = .notOk
    · rw [if_pos hk]
      exact .refused ⟨before, a, later, hacts, hfails, hfails.refused.1 hk⟩
    · rw [if_neg hk]
      exact .failed ⟨before, a, later, hacts, hfails, mt hfails.refused.2 hk⟩
  | timeout =>
    have hover : patience * 1000 ≤ (World.run r.setup (worldActs acts)).clock := hshows
    rw [find?, isOver, hworld, hpatience, decide_eq_true hover, if_pos rfl] at hf
    cases hf
    exact .timeout hover

/-- As long as it waits, a look of a command ends the wait exactly if the sign is there. -/
theorem ending_look_iff : (∃ e, (after r patience (acts ++ [.look sign])).ending = some e) ↔
    Shows patience (after r patience acts).world sign := by
  rw [world_after hn, ← exists_find?_iff hforeign hn, after_concat]
  show (∃ e, ((after r patience acts).look sign).ending = some e) ↔ _
  cases hf : (after r patience acts).find? sign with
  | none =>
    rw [look_of_find?_eq_none _ hf, hn]
  | some e =>
    rw [look_of_find? _ hn hf]

end Looks

/-- A command that ends with a problem shuts its session down. -/
theorem Verdict.endsSession {before : List (Session.Act Handler)} {sign : Sign} {problem : Problem}
    (h : Verdict r patience before sign (.error problem)) : endsSession sign = true := by
  cases h <;> rfl

/-- **A command goes on only if its session is logged in, and else it ends with the first failure of
the session or because the time is over, and its session ends too. A command that looks as soon as
there is a sign goes by the first one.** -/
theorem first_sign_decides (r : Resolved) (patience : Nat) (acts : List LoginAct)
    (h : ∀ a ∈ worldActs acts, a.isForeign = true) : Decided r patience acts where
  verdict e he := by
    obtain ⟨earlier, sign, later, rfl, hn, hf⟩ := exists_look he
    have hearlier : ∀ a ∈ worldActs earlier, a.isForeign = true := fun a ha =>
      h a (worldActs_append .. ▸ List.mem_append_left _ ha)
    have hshows := (exists_find?_iff hearlier hn).1 ⟨e, hf⟩
    refine ⟨earlier, sign, later, rfl, hn, verdict_of_find? hearlier hn hf, fun hprompt => ?_⟩
    have hquiet : ∀ before a rest, worldActs earlier = before ++ a :: rest →
        Quiet patience (World.run r.setup before) := fun _ _ _ => hprompt.quiet rfl hn
    exact
      { now := fun s => ⟨shows_subsingleton (fun before a => hquiet before a []) hshows,
          fun hs => hs ▸ hshows⟩
        earlier := hquiet }
  looks hn _ := ending_look_iff h hn
  shutdown problem he more := by
    obtain ⟨earlier, sign, later, rfl, hn, hf⟩ := exists_look he
    have hearlier : ∀ a ∈ worldActs earlier, a.isForeign = true := fun a ha =>
      h a (worldActs_append .. ▸ List.mem_append_left _ ha)
    have hends := (verdict_of_find? hearlier hn hf).endsSession
    rw [List.append_assoc, List.cons_append]
    exact World.ended_of_cancelled (cancelled_of_look hn hf hends)
  waits hprompt hn _ _ := hprompt.waits hn

end Verdicts

/-- The server of a command. -/
def sampleResolved : Resolved := ⟨"default", ⟨"localhost", defaultPort, "key"⟩, .default⟩

/-- A command whose login is refused. -/
def sampleDenial : List LoginAct :=
  [.world .step, .world (.offer 1 (.ok ())), .world (.linkStep 1), .world .step,
    .world (.linkStep 1), .world (.linkStep 1),
    .world (.arrive 1 (.text
      "\x7b\x22callback_id\x22:1,\x22data\x22:\x7b\x22ok\x22:false\x7d\x7d")),
    .world (.linkStep 1), .world .step, .look .failure]

theorem sampleDenial_decided :
    (∀ a ∈ worldActs sampleDenial, a.isForeign = true) ∧
    Prompt sampleResolved 10 sampleDenial ∧
    (after sampleResolved 10 sampleDenial).ending = some (.error (.authFailed "default")) ∧
    (∃ before failure, FirstSign sampleResolved 10 before .failure ∧
      World.Happens sampleResolved.setup before fun w a =>
        w.FailsFirst failure a ∧ w.LoginRefused) ∧
    (((after sampleResolved 10 sampleDenial).world.act .step).act .step).stage = .ended := by
  have hforeign : ∀ a ∈ worldActs sampleDenial, a.isForeign = true := by decide +kernel
  have hprompt : Prompt sampleResolved 10 sampleDenial := ⟨by decide +kernel, by decide +kernel⟩
  have hend : (after sampleResolved 10 sampleDenial).ending =
      some (.error (.authFailed "default")) := by
    decide +kernel
  have hdecided := first_sign_decides sampleResolved 10 sampleDenial hforeign
  refine ⟨hforeign, hprompt, hend, ?_, List.append_nil sampleDenial ▸ hdecided.shutdown _ hend []⟩
  obtain ⟨earlier, sign, later, -, -, hverdict, hfirst⟩ := hdecided.verdict _ hend
  cases hverdict with
  | refused failed => exact ⟨_, _, hfirst hprompt, failed⟩

/-- A command whose session has failed and logged in again before the command looks. -/
def sampleOvertaking : List LoginAct :=
  [.world .step, .world (.offer 1 (.error (.connect "localhost" defaultPort "refused"))),
    .world (.linkStep 1), .world .step, .world .step, .world (.offer 3 (.ok ())),
    .world (.linkStep 3), .world .step, .world (.linkStep 3), .world (.linkStep 3),
    .world (.arrive 3 (.text
      "\x7b\x22callback_id\x22:1,\x22data\x22:\x7b\x22ok\x22:true\x7d\x7d")),
    .world (.linkStep 3), .world .step, .look .connected]

/-- A command whose first attempt fails when its time is over. -/
def sampleLateness : List LoginAct :=
  [.world .step, .world (.elapse 10000),
    .world (.offer 1 (.error (.connect "localhost" defaultPort "refused"))), .world (.linkStep 1),
    .world .step, .look .failure]

/-- **A command that is late may go on after a failure, or fail with one after its time.** -/
theorem late_signs_win :
    ((∀ a ∈ worldActs sampleOvertaking, a.isForeign = true) ∧
      (after sampleResolved 10 sampleOvertaking).world.failure? =
        some (.connect "localhost" defaultPort "refused") ∧
      (after sampleResolved 10 sampleOvertaking).ending = some (.ok ())) ∧
    (∀ a ∈ worldActs sampleLateness, a.isForeign = true) ∧
    ∀ patience ≤ 10,
      Shows patience (after sampleResolved patience (sampleLateness.take 2)).world .timeout ∧
      ¬ Shows patience (after sampleResolved patience (sampleLateness.take 2)).world .failure ∧
      (after sampleResolved patience sampleLateness).ending =
        some (.error (.connectionFailed "localhost:3344"
          "Cannot connect to localhost:3344: refused")) := by
  refine ⟨⟨?_, ?_, ?_⟩, ?_, ?_⟩ <;> decide +kernel

end LoginWait

end PrintClient.CommandLine
