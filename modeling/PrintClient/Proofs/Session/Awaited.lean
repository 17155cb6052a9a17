import Mathlib.Data.List.Basic
import Mathlib.Data.List.Induction
import PrintClient.Proofs.Session.Fates

/-!
# Calls that await their responses

A call submits a request and awaits the response. When it looks, it finds what has become of the
request. That a request was lost says only that no response will come, so the call also looks at the
session then, to learn whether a later request may succeed. What it finds it keeps.

* `isClosed_of_loses`: a session is at work when a request is lost with its connection;
* `Calls`, `CallAct`: a session beside the calls of its callers, and one thing that happens to them;
* `LearnsInTime`: a call looks while the session is still at work after its request was lost;
* `Prompt`: no caller stops the session before the call has found what there is to find;
* `result?_of_lost`: what a call makes of a loss;
* `Resolved`, `calls_resolve`: what each call has found once there is nothing more to do;
* `late_look_finds_closed`: a loss alone does not settle what a call finds.
-/

namespace PrintClient.Session

variable {H : Type}

/-! ### Whether a session is at work -/

namespace World

variable {w w' : World H}

theorem isClosed_eq_false_iff : w.isClosed = false ↔ w.cancelled = false ∧ w.stage ≠ .ended := by
  simp [isClosed]

theorem isClosed_act (h : w.isClosed = true) (a : Act H) : (w.act a).isClosed = true := by
  simp only [isClosed, Bool.or_eq_true, decide_eq_true_eq] at h ⊢
  exact h.imp (cancelled_act · a) (stage_act_of_ended · a)

/-- A session that is closed stays closed. -/
theorem isClosed_run {setup : Setup H} {acts : List (Act H)} (h : (run setup acts).isClosed = true)
    (more : List (Act H)) : (run setup (acts ++ more)).isClosed = true := by
  induction more using List.reverseRecOn with
  | nil => rwa [List.append_nil]
  | append_singleton more a ih =>
    rw [← List.append_assoc, run_concat]
    exact isClosed_act ih a

/-- **A session is at work when a request is lost with its connection.** -/
theorem isClosed_of_loses {setup : Setup H} {acts : List (Act H)} {a : Act H} {handler : H}
    (h : LosesWithConnection handler (run setup acts) a) :
    ((run setup acts).act a).isClosed = false := by
  rcases (run setup acts).aside_or_step a with haside | ⟨rfl, hstep⟩
  · exact absurd (haside.session ▸ h.tornDown.after) h.tornDown.before
  · rw [isClosed_eq_false_iff, hstep.sameWish.cancelled]
    refine ⟨?_, h.stage⟩
    -- Otherwise the session would have ended in this step.
    by_contra hc
    have hmust : (run setup acts).MustEnd :=
      ⟨(generations_run setup acts).running h.tornDown.before, .inl (Bool.not_eq_false _ ▸ hc)⟩
    exact h.stage hmust.stage_act

/-- A session that has nothing to do has taken all commands. -/
theorem commands_of_step?_eq_none (h : w.step? = none) (hs : w.stage ≠ .ended) :
    w.commands = [] := by
  have hrunning : w.stage = .running := by
    cases hw : w.stage with
    | starting =>
      rw [step?, hw] at h
      cases h
    | running => rfl
    | ended => exact absurd hw hs
  have hempty : w.backlog = 0 := by
    by_contra hb
    obtain ⟨w', hw⟩ := exists_step_of_backlog hrunning hb
    rw [hw] at h
    cases h
  exact List.length_eq_zero_iff.1 (Nat.eq_zero_of_add_eq_zero_right hempty)

/-! ### What stays known -/

theorem history_run_append (setup : Setup H) (acts more : List (Act H)) :
    ∃ new, (run setup (acts ++ more)).history = (run setup acts).history ++ new := by
  induction more using List.reverseRecOn with
  | nil => exact ⟨[], by rw [List.append_nil, List.append_nil]⟩
  | append_singleton more a ih =>
    obtain ⟨new, hnew⟩ := ih
    obtain ⟨last, hlast, -⟩ := history_act setup (acts ++ more) a
    exact ⟨new ++ last, by rw [← List.append_assoc, run_concat, hlast, hnew, List.append_assoc]⟩

/-- The fate of a request does not change any more. -/
theorem fate?_run_append [DecidableEq H] {setup : Setup H} {acts : List (Act H)} {handler : H}
    {f : Fate} (h : (run setup acts).fate? handler = some f) (more : List (Act H)) :
    (run setup (acts ++ more)).fate? handler = some f := by
  obtain ⟨new, hnew⟩ := history_run_append setup acts more
  rw [fate?_eq] at h ⊢
  rw [hnew, List.filterMap_append, List.head?_append, h]
  rfl

end World

/-! ### Calls -/

/-- One thing that happens to a session and its callers: an act, or the call of a handler looks. -/
inductive CallAct (H : Type) where
  | world (act : Act H)
  | look (handler : H)

/-- The act on the session, if it is one. -/
def CallAct.act? : CallAct H → Option (Act H)
  | .world a => some a
  | .look _ => none

/-- The acts on the session. -/
def worldActs (acts : List (CallAct H)) : List (Act H) := acts.filterMap CallAct.act?

@[simp] theorem worldActs_append (acts more : List (CallAct H)) :
    worldActs (acts ++ more) = worldActs acts ++ worldActs more :=
  List.filterMap_append

/-- A session beside the calls of its callers, with what each of them has found. -/
structure Calls (H : Type) where
  world : World H
  result? : H → Option (Except Failure Json)

namespace Calls

variable [DecidableEq H]

/-- The calls of a session that has done nothing yet. -/
def start (setup : Setup H) : Calls H := ⟨.start setup.session, fun _ => none⟩

/-- The calls after one thing has happened; a call that has its result keeps it. -/
def act (c : Calls H) : CallAct H → Calls H
  | .world a => { c with world := c.world.act a }
  | .look handler =>
    { c with
      result? := fun h =>
        if h = handler then (c.result? h).or (c.world.outcome? h) else c.result? h }

/-- The calls after a list of things has happened. -/
def run (setup : Setup H) (acts : List (CallAct H)) : Calls H := acts.foldl act (start setup)

variable {setup : Setup H} {acts : List (CallAct H)} {handler : H}

theorem run_concat (a : CallAct H) : run setup (acts ++ [a]) = (run setup acts).act a :=
  List.foldl_concat ..

/-- What calls do leaves the session alone. -/
@[simp] theorem world_run (setup : Setup H) (acts : List (CallAct H)) :
    (run setup acts).world = World.run setup (worldActs acts) := by
  induction acts using List.reverseRecOn with
  | nil => rfl
  | append_singleton acts a ih =>
    rw [run_concat, worldActs_append]
    cases a with
    | world a =>
      show (run setup acts).world.act a = _
      rw [ih]
      exact (World.run_concat setup (worldActs acts) a).symm
    | look handler =>
      have hnone : worldActs [CallAct.look handler] = ([] : List (Act H)) := rfl
      rw [hnone, List.append_nil]
      exact ih

theorem result?_look (c : Calls H) (handler h : H) : (c.act (.look handler)).result? h =
    if h = handler then (c.result? h).or (c.world.outcome? h) else c.result? h :=
  rfl

/-- A call keeps what it has found. -/
theorem result?_run_append {r : Except Failure Json} (h : (run setup acts).result? handler = some r)
    (more : List (CallAct H)) : (run setup (acts ++ more)).result? handler = some r := by
  induction more using List.reverseRecOn with
  | nil => rwa [List.append_nil]
  | append_singleton more a ih =>
    rw [← List.append_assoc, run_concat]
    cases a with
    | world a => exact ih
    | look h' =>
      rw [result?_look, ih]
      exact ite_self _

/-- What a call has found it found in one of its looks. -/
theorem exists_look {r : Except Failure Json} (h : (run setup acts).result? handler = some r) :
    ∃ earlier later, acts = earlier ++ .look handler :: later ∧
      (run setup earlier).result? handler = none ∧
      (World.run setup (worldActs earlier)).outcome? handler = some r := by
  induction acts using List.reverseRecOn with
  | nil => cases h
  | append_singleton acts a ih =>
    cases hr : (run setup acts).result? handler with
    | some r' =>
      obtain rfl := Option.some.inj ((result?_run_append hr [a]).symm.trans h)
      obtain ⟨earlier, later, rfl, hnone, ho⟩ := ih hr
      exact ⟨earlier, later ++ [a], by simp, hnone, ho⟩
    | none =>
      rw [run_concat] at h
      cases a with
      | world a => exact absurd (hr.symm.trans h) (by simp)
      | look h' =>
        rw [result?_look, hr, Option.none_or, world_run] at h
        by_cases hh : handler = h'
        · rw [if_pos hh] at h
          exact ⟨acts, [], by rw [hh], hr, h⟩
        · rw [if_neg hh] at h
          cases h

/-! ### Learning of a loss -/

/-- The call looks while the session is still at work after its request was lost with its
connection. -/
def LearnsInTime (setup : Setup H) (acts : List (CallAct H)) (handler : H) : Prop :=
  ∃ earlier later, acts = earlier ++ .look handler :: later ∧
    World.Happens setup (worldActs earlier) (World.LosesWithConnection handler) ∧
    (World.run setup (worldActs earlier)).isClosed = false

/-- No caller stops the session before the call has found what there is to find. -/
def Prompt (setup : Setup H) (acts : List (CallAct H)) (handler : H) : Prop :=
  ∀ earlier a later, acts = earlier ++ .world a :: later →
    (run setup earlier).world.isClosed = false →
    ((run setup earlier).world.act a).isClosed = true →
    (run setup earlier).result? handler = none → (run setup earlier).world.outcome? handler = none

/-- The session has nothing to do, and the call has found what there is to find. -/
structure AtRest (c : Calls H) (handler : H) : Prop where
  session : c.world.step? = none
  call : c.result? handler = none → c.world.outcome? handler = none

omit [DecidableEq H] in
theorem LearnsInTime.loses (h : LearnsInTime setup acts handler) :
    World.Happens setup (worldActs acts) (World.LosesWithConnection handler) := by
  obtain ⟨earlier, later, rfl, hl, -⟩ := h
  rw [worldActs_append]
  exact hl.append _

/-- A call that looks in time finds at once what it keeps. -/
theorem LearnsInTime.result?_isSome (hone : (handed (worldActs acts)).count handler ≤ 1)
    (h : LearnsInTime setup acts handler) : ∃ r, (run setup acts).result? handler = some r := by
  obtain ⟨earlier, later, rfl, hl, -⟩ := h
  rw [worldActs_append] at hone
  have hfate := (World.fate?_eq_lost_iff
    (Nat.le_trans (World.count_handed_le _ handler _) hone)).2 (.inl hl)
  obtain ⟨r, hr⟩ : ∃ r, (run setup (earlier ++ [.look handler])).result? handler = some r := by
    rw [run_concat, result?_look, if_pos rfl, world_run, World.outcome?, hfate]
    cases (run setup earlier).result? handler with
    | none => exact ⟨_, rfl⟩
    | some r => exact ⟨r, rfl⟩
  refine ⟨r, ?_⟩
  rw [List.append_cons]
  exact result?_run_append hr later

/-- When a call that learns in time finds something, the session is still at work. -/
theorem LearnsInTime.isClosed_eq_false {earlier later : List (CallAct H)}
    (h : LearnsInTime setup (earlier ++ .look handler :: later) handler)
    (hone : (handed (worldActs earlier)).count handler ≤ 1)
    (hnone : (run setup earlier).result? handler = none) :
    (World.run setup (worldActs earlier)).isClosed = false := by
  obtain ⟨before, after, heq, hl, hopen⟩ := h
  rcases List.append_eq_append_iff.1 heq with ⟨more, rfl, -⟩ | ⟨more, rfl, hmore⟩
  · -- The look in time comes later than this one.
    rw [Bool.eq_false_iff]
    intro hc
    rw [worldActs_append, World.isClosed_run hc] at hopen
    cases hopen
  · cases more with
    | nil => rwa [List.append_nil]
    | cons first more =>
      obtain ⟨rfl, -⟩ := List.cons.inj hmore
      obtain ⟨r, hr⟩ := LearnsInTime.result?_isSome hone ⟨before, more, rfl, hl, hopen⟩
      exact absurd (hnone.symm.trans hr) (by simp)

/-! ### What a call has found -/

/-- A call that has found something has found the fate of its request. -/
theorem exists_fate? {r : Except Failure Json} (h : (run setup acts).result? handler = some r) :
    ∃ f, (World.run setup (worldActs acts)).fate? handler = some f := by
  obtain ⟨earlier, later, rfl, -, ho⟩ := exists_look h
  obtain ⟨f, hf, -⟩ := Option.map_eq_some_iff.1 ho
  rw [worldActs_append]
  exact ⟨f, World.fate?_run_append hf _⟩

/-- It found it in a look at which the fate was known. -/
theorem exists_look_of_fate? {r : Except Failure Json} {f : Fate}
    (hf : (World.run setup (worldActs acts)).fate? handler = some f)
    (h : (run setup acts).result? handler = some r) :
    ∃ earlier later, acts = earlier ++ .look handler :: later ∧
      (run setup earlier).result? handler = none ∧
      (World.run setup (worldActs earlier)).fate? handler = some f ∧
      r = match f with
        | .answered data => .ok data
        | .lost => .error (World.run setup (worldActs earlier)).lossFailure
        | .refused => .error .sessionClosed := by
  obtain ⟨earlier, later, rfl, hnone, ho⟩ := exists_look h
  obtain ⟨f', hf', rfl⟩ := Option.map_eq_some_iff.1 ho
  rw [worldActs_append, World.fate?_run_append hf'] at hf
  cases hf
  exact ⟨earlier, later, rfl, hnone, hf', rfl⟩

theorem result?_of_answered {r : Except Failure Json} {data : Json}
    (hf : (World.run setup (worldActs acts)).fate? handler = some (.answered data))
    (h : (run setup acts).result? handler = some r) : r = .ok data := by
  obtain ⟨_, _, _, _, _, hr⟩ := exists_look_of_fate? hf h
  exact hr

theorem result?_of_refused {r : Except Failure Json}
    (hf : (World.run setup (worldActs acts)).fate? handler = some .refused)
    (h : (run setup acts).result? handler = some r) : r = .error .sessionClosed := by
  obtain ⟨_, _, _, _, _, hr⟩ := exists_look_of_fate? hf h
  exact hr

/-- **Of a loss a call makes what the session is when it looks.** -/
theorem result?_of_lost (hone : (handed (worldActs acts)).count handler ≤ 1)
    {r : Except Failure Json} (hf : (World.run setup (worldActs acts)).fate? handler = some .lost)
    (h : (run setup acts).result? handler = some r) :
    (LearnsInTime setup acts handler ∧ r = .error .disconnected) ∨
      (¬ LearnsInTime setup acts handler ∧ r = .error .sessionClosed) := by
  obtain ⟨earlier, later, rfl, hnone, hlost, rfl⟩ := exists_look_of_fate? hf h
  rw [worldActs_append] at hone
  have hearlier := Nat.le_trans (World.count_handed_le _ handler _) hone
  cases hc : (World.run setup (worldActs earlier)).isClosed with
  | false =>
    refine .inl ⟨?_, by simp [World.lossFailure, hc]⟩
    rcases (World.fate?_eq_lost_iff hearlier).1 hlost with hl | hg
    · exact ⟨earlier, later, rfl, hl, hc⟩
    · exact absurd (World.stage_of_losesAtEnd hg) (World.isClosed_eq_false_iff.1 hc).2
  | true =>
    refine .inr ⟨fun hintime => ?_, by simp [World.lossFailure, hc]⟩
    rw [hintime.isClosed_eq_false hearlier hnone] at hc
    cases hc

/-- A call whose request was lost has looked in time if it has a result while the session is still
at work. -/
theorem learnsInTime_of_open (hone : (handed (worldActs acts)).count handler ≤ 1)
    (hl : World.Happens setup (worldActs acts) (World.LosesWithConnection handler))
    (hopen : (World.run setup (worldActs acts)).isClosed = false) {r : Except Failure Json}
    (h : (run setup acts).result? handler = some r) : LearnsInTime setup acts handler := by
  have hf := (World.fate?_eq_lost_iff hone).2 (.inl hl)
  obtain ⟨earlier, later, rfl, -, hlost, -⟩ := exists_look_of_fate? hf h
  rw [worldActs_append] at hone hopen
  have hearlier : (World.run setup (worldActs earlier)).isClosed = false := by
    rw [Bool.eq_false_iff]
    intro hc
    rw [World.isClosed_run hc] at hopen
    cases hopen
  rcases (World.fate?_eq_lost_iff (Nat.le_trans (World.count_handed_le _ handler _) hone)).1 hlost
    with hl | hg
  · exact ⟨earlier, later, rfl, hl, hearlier⟩
  · exact absurd (World.stage_of_losesAtEnd hg) (World.isClosed_eq_false_iff.1 hearlier).2

/-- A call that looks before the session is stopped learns of its loss in time. -/
theorem Prompt.learnsInTime (hone : (handed (worldActs acts)).count handler ≤ 1)
    (hprompt : Prompt setup acts handler)
    (hl : World.Happens setup (worldActs acts) (World.LosesWithConnection handler))
    (hc : (World.run setup (worldActs acts)).isClosed = true) :
    LearnsInTime setup acts handler := by
  induction acts using List.reverseRecOn with
  | nil => exact absurd hl World.not_happens_nil
  | append_singleton acts a ih =>
    rw [worldActs_append] at hone hl hc
    have hacts := Nat.le_trans (World.count_handed_le _ handler _) hone
    have hbefore : Prompt setup acts handler := fun earlier b later h =>
      hprompt earlier b (later ++ [a]) (by rw [h]; simp)
    have hlater : LearnsInTime setup acts handler → LearnsInTime setup (acts ++ [a]) handler := by
      rintro ⟨earlier, later, rfl, hlost, hopen⟩
      exact ⟨earlier, later ++ [a], by simp, hlost, hopen⟩
    cases a with
    | look h' =>
      have hsame : worldActs acts ++ worldActs [CallAct.look h'] = worldActs acts :=
        List.append_nil _
      rw [hsame] at hl hc
      exact hlater (ih hacts hbefore hl hc)
    | world a =>
      have hsame : worldActs [CallAct.world a] = [a] := rfl
      rw [hsame] at hl hc
      rcases World.happens_concat.1 hl with hl | hnow
      · refine hlater ?_
        cases hopen : (World.run setup (worldActs acts)).isClosed with
        | true => exact ih hacts hbefore hl hopen
        | false =>
          -- This act stops the session, so the call has looked.
          have hlooked := hprompt acts a [] rfl
          rw [world_run, World.outcome?, (World.fate?_eq_lost_iff hacts).2 (.inl hl)] at hlooked
          rw [World.run_concat] at hc
          cases hr : (run setup acts).result? handler with
          | none => cases hlooked hopen hc hr
          | some r => exact learnsInTime_of_open hacts hl hopen hr
      · rw [World.run_concat, World.isClosed_of_loses hnow] at hc
        cases hc

/-- A call has found nothing if nothing has become of its request. -/
theorem result?_eq_none_of_fate? (h : (World.run setup (worldActs acts)).fate? handler = none) :
    (run setup acts).result? handler = none := by
  rw [Option.eq_none_iff_forall_ne_some]
  intro r hr
  obtain ⟨f, hf⟩ := exists_fate? hr
  rw [hf] at h
  cases h

theorem AtRest.fate?_eq_none (hrest : (run setup acts).AtRest handler)
    (h : (run setup acts).result? handler = none) :
    (World.run setup (worldActs acts)).fate? handler = none := by
  have ho := hrest.call h
  rwa [world_run, World.outcome?, Option.map_eq_none_iff] at ho

/-- At rest a call has a result if its request has come to an end. -/
theorem AtRest.exists_result? (hrest : (run setup acts).AtRest handler) {f : Fate}
    (h : (World.run setup (worldActs acts)).fate? handler = some f) :
    ∃ r, (run setup acts).result? handler = some r := by
  rw [← Option.ne_none_iff_exists']
  intro hnone
  rw [hrest.fate?_eq_none hnone] at h
  cases h

section Resolved

variable (hone : (handed (worldActs acts)).count handler ≤ 1)

include hone

theorem LearnsInTime.fate? (h : LearnsInTime setup acts handler) :
    (World.run setup (worldActs acts)).fate? handler = some .lost :=
  (World.fate?_eq_lost_iff hone).2 (.inl h.loses)

theorem result?_eq_disconnected_iff : (run setup acts).result? handler =
    some (.error .disconnected) ↔ LearnsInTime setup acts handler := by
  constructor
  · intro h
    obtain ⟨f, hf⟩ := exists_fate? h
    cases f with
    | answered data => cases result?_of_answered hf h
    | refused => cases result?_of_refused hf h
    | lost =>
      rcases result?_of_lost hone hf h with ⟨hintime, -⟩ | ⟨-, hr⟩
      · exact hintime
      · cases hr
  · intro h
    obtain ⟨r, hr⟩ := h.result?_isSome hone
    rcases result?_of_lost hone (h.fate? hone) hr with ⟨-, rfl⟩ | ⟨hnot, -⟩
    · exact hr
    · exact absurd h hnot

/-- A call fails only because its request was lost, or because the session has ended. -/
theorem eq_of_result?_eq_error {failure : Failure}
    (h : (run setup acts).result? handler = some (.error failure)) :
    failure = .disconnected ∨ failure = .sessionClosed := by
  obtain ⟨f, hf⟩ := exists_fate? h
  cases f with
  | answered data => cases result?_of_answered hf h
  | refused =>
    cases result?_of_refused hf h
    exact .inr rfl
  | lost =>
    rcases result?_of_lost hone hf h with ⟨-, hr⟩ | ⟨-, hr⟩
    · cases hr
      exact .inl rfl
    · cases hr
      exact .inr rfl

/-- Nothing becomes of a request that was never on its way, unless the session ends. -/
theorem fate?_of_unsent (hnever : ∀ earlier, earlier <+: worldActs acts →
      handler ∉ callers (World.run setup earlier).session.inFlight.toList)
    (hs : (World.run setup (worldActs acts)).stage ≠ .ended) :
    (World.run setup (worldActs acts)).fate? handler = none := by
  have hnot : ∀ before a after request, worldActs acts = before ++ a :: after →
      (World.run setup before).session.inFlight ≠ some ⟨request, .caller handler⟩ := by
    intro before a after request heq hi
    refine hnever before ⟨a :: after, heq.symm⟩ ?_
    rw [hi]
    exact List.mem_singleton_self _
  refine (World.fate?_eq_none_iff_not hone).2 ⟨?_, ?_, ?_, ?_⟩
  · rintro data ⟨before, a, after, heq, -, -, g, id, request, rest, -, hi, -⟩
    exact hnot before a after request heq hi
  · rintro ⟨before, a, after, heq, ⟨⟨request, hi⟩, -⟩, -⟩
    exact hnot before a after request heq hi
  · exact fun hg => hs (World.stage_of_losesAtEnd hg)
  · rintro ⟨before, a, after, heq, -, hend⟩
    rw [heq, World.run_append] at hs
    exact hs (World.stage_all_of_ended hend _)

variable (hrest : (run setup acts).AtRest handler)

include hrest

theorem result?_eq_ok_iff (data : Json) : (run setup acts).result? handler = some (.ok data) ↔
    World.Happens setup (worldActs acts) (World.Answers handler data) := by
  rw [← World.fate?_eq_answered_iff hone]
  constructor
  · intro h
    obtain ⟨f, hf⟩ := exists_fate? h
    cases f with
    | answered data' =>
      cases result?_of_answered hf h
      exact hf
    | refused => cases result?_of_refused hf h
    | lost => rcases result?_of_lost hone hf h with ⟨-, hr⟩ | ⟨-, hr⟩ <;> cases hr
  · intro hf
    obtain ⟨r, hr⟩ := hrest.exists_result? hf
    rw [hr, result?_of_answered hf hr]

theorem result?_eq_closed_iff : (run setup acts).result? handler = some (.error .sessionClosed) ↔
    World.Happens setup (worldActs acts) (World.Refuses handler) ∨
      World.Happens setup (worldActs acts) (World.LosesAtEnd handler) ∨
      World.Happens setup (worldActs acts) (World.LosesWithConnection handler) ∧
        ¬ LearnsInTime setup acts handler := by
  constructor
  · intro h
    obtain ⟨f, hf⟩ := exists_fate? h
    cases f with
    | answered data => cases result?_of_answered hf h
    | refused => exact .inl ((World.fate?_eq_refused_iff hone).1 hf)
    | lost =>
      rcases result?_of_lost hone hf h with ⟨-, hr⟩ | ⟨hnot, -⟩
      · cases hr
      · rcases (World.fate?_eq_lost_iff hone).1 hf with hl | hg
        · exact .inr (.inr ⟨hl, hnot⟩)
        · exact .inr (.inl hg)
  · intro h
    have hlost : ∀ hf : (World.run setup (worldActs acts)).fate? handler = some .lost,
        ¬ LearnsInTime setup acts handler →
        (run setup acts).result? handler = some (.error .sessionClosed) := by
      intro hf hnot
      obtain ⟨r, hr⟩ := hrest.exists_result? hf
      rcases result?_of_lost hone hf hr with ⟨hintime, -⟩ | ⟨-, rfl⟩
      · exact absurd hintime hnot
      · exact hr
    rcases h with h | hg | ⟨hl, hnot⟩
    · have hf := (World.fate?_eq_refused_iff hone).2 h
      obtain ⟨r, hr⟩ := hrest.exists_result? hf
      rw [hr, result?_of_refused hf hr]
    · exact hlost ((World.fate?_eq_lost_iff hone).2 (.inr hg)) fun hintime =>
        World.not_losesAtEnd_of_loses hone hintime.loses hg
    · exact hlost ((World.fate?_eq_lost_iff hone).2 (.inl hl)) hnot

theorem learnsInTime_iff_of_prompt (hprompt : Prompt setup acts handler) :
    LearnsInTime setup acts handler ↔
      World.Happens setup (worldActs acts) (World.LosesWithConnection handler) := by
  refine ⟨LearnsInTime.loses, fun hl => ?_⟩
  cases hc : (World.run setup (worldActs acts)).isClosed with
  | true => exact hprompt.learnsInTime hone hl hc
  | false =>
    obtain ⟨r, hr⟩ := hrest.exists_result? ((World.fate?_eq_lost_iff hone).2 (.inl hl))
    exact learnsInTime_of_open hone hl hc hr

end Resolved

/-! ### What every call has found -/

/-- What the call of a handler has found once there is nothing more to do, by what has become of its
request. -/
structure Resolved (setup : Setup H) (acts : List (CallAct H)) (handler : H) : Prop where
  /-- It is answered with what its request was answered with. -/
  answered : ∀ data, (run setup acts).result? handler = some (.ok data) ↔
    World.Happens setup (worldActs acts) (World.Answers handler data)
  /-- It is disconnected if its request was on its way when the connection was torn down, and the
  session kept running until the call learned of it. -/
  disconnected : (run setup acts).result? handler = some (.error .disconnected) ↔
    LearnsInTime setup acts handler
  /-- It is told of the end of the session if that came before its request was submitted, or before
  it was answered or lost, or before the call learned that it was lost. -/
  closed : (run setup acts).result? handler = some (.error .sessionClosed) ↔
    World.Happens setup (worldActs acts) (World.Refuses handler) ∨
      World.Happens setup (worldActs acts) (World.LosesAtEnd handler) ∨
      World.Happens setup (worldActs acts) (World.LosesWithConnection handler) ∧
        ¬ LearnsInTime setup acts handler
  /-- It waits in all other cases. -/
  unresolved : (run setup acts).result? handler = none ↔
    (∀ data, ¬ World.Happens setup (worldActs acts) (World.Answers handler data)) ∧
    ¬ World.Happens setup (worldActs acts) (World.LosesWithConnection handler) ∧
    ¬ World.Happens setup (worldActs acts) (World.LosesAtEnd handler) ∧
    ¬ World.Happens setup (worldActs acts) (World.Refuses handler)
  /-- It fails in no other way. -/
  failures : ∀ failure, (run setup acts).result? handler = some (.error failure) →
    failure = .disconnected ∨ failure = .sessionClosed
  /-- A call that learns of a loss before the session is stopped is disconnected exactly if its
  request was on its way when the connection was torn down and the session kept running, and it is
  told of the end of the session exactly if its request was refused or given up. -/
  prompt : Prompt setup acts handler →
    ((run setup acts).result? handler = some (.error .disconnected) ↔
      World.Happens setup (worldActs acts) (World.LosesWithConnection handler)) ∧
    ((run setup acts).result? handler = some (.error .sessionClosed) ↔
      World.Happens setup (worldActs acts) (World.Refuses handler) ∨
        World.Happens setup (worldActs acts) (World.LosesAtEnd handler))
  /-- As long as it waits, its request is on its way or in the queue. -/
  waiting : World.Happens setup (worldActs acts) (fun _ a => a.submitted? = some handler) →
    ((run setup acts).result? handler = none ↔ (run setup acts).world.stage ≠ .ended ∧
      handler ∈ callers (run setup acts).world.session.inFlight.toList ++
        callers (run setup acts).world.session.queue)
  /-- No teardown resolves a call whose request is still queued, or moves its request. -/
  queued : ∀ earlier a later g failure, acts = earlier ++ .world a :: later →
    (run setup earlier).world.TearsDown ((run setup earlier).world.act a) g failure →
    handler ∈ callers (run setup earlier).world.session.queue ++
      (run setup earlier).world.commands.filterMap World.Command.handler? →
    (run setup (earlier ++ [.world a])).result? handler = none ∧
      (run setup (earlier ++ [.world a])).world.outcome? handler = none ∧
      handler ∈ callers ((run setup earlier).world.act a).session.queue ++
        ((run setup earlier).world.act a).commands.filterMap World.Command.handler?
  /-- Nor do any number of them: a call whose request was never on its way waits until the session
  ends. -/
  unsent : (∀ earlier, earlier <+: worldActs acts →
      handler ∉ callers (World.run setup earlier).session.inFlight.toList) →
    (run setup acts).world.stage ≠ .ended → (run setup acts).result? handler = none

/-- **What each of any number of calls has found once there is nothing more to do.** -/
theorem calls_resolve (setup : Setup H) (acts : List (CallAct H)) (handler : H)
    (hone : (handed (worldActs acts)).count handler ≤ 1)
    (hrest : (run setup acts).AtRest handler) : Resolved setup acts handler := by
  have hintime := learnsInTime_iff_of_prompt hone hrest
  constructor
  case answered => exact result?_eq_ok_iff hone hrest
  case disconnected => exact result?_eq_disconnected_iff hone
  case closed => exact result?_eq_closed_iff hone hrest
  case unresolved =>
    rw [← World.fate?_eq_none_iff_not hone]
    exact ⟨hrest.fate?_eq_none, result?_eq_none_of_fate?⟩
  case failures => exact fun _ => eq_of_result?_eq_error hone
  case prompt =>
    intro hprompt
    rw [result?_eq_disconnected_iff hone, result?_eq_closed_iff hone hrest, hintime hprompt]
    exact ⟨.rfl, by simp⟩
  case waiting =>
    intro hsub
    constructor
    · intro h
      obtain ⟨hs, hw⟩ := World.waiting_of_fate?_eq_none hsub (hrest.fate?_eq_none h)
      rw [← world_run] at hs hw
      rw [World.waiting, World.commands_of_step?_eq_none hrest.session hs] at hw
      exact ⟨hs, by simpa using hw⟩
    · rintro ⟨hs, hw⟩
      rw [world_run] at hs hw
      exact result?_eq_none_of_fate?
        (World.fate?_eq_none_of_waiting hone hs (List.mem_append_left _ hw))
  case queued =>
    rintro earlier a later g failure rfl hdown hw
    have hworld : worldActs (earlier ++ [.world a]) = worldActs earlier ++ [a] :=
      worldActs_append ..
    rw [List.append_cons, worldActs_append, hworld] at hone
    rw [world_run] at hdown hw
    obtain ⟨hfate, hqueued⟩ :=
      hdown.fate?_of_queued (Nat.le_trans (World.count_handed_le _ handler _) hone) hw
    rw [← hworld] at hfate
    refine ⟨result?_eq_none_of_fate? hfate, ?_, world_run setup earlier ▸ hqueued⟩
    rw [world_run, World.outcome?, hfate]
    rfl
  case unsent =>
    intro hnever hs
    rw [world_run] at hs
    exact result?_eq_none_of_fate? (fate?_of_unsent hone hnever hs)

/-- Two calls of which the first looks after its request was lost, and the second waits. -/
def sampleCalls : List (CallAct Nat) :=
  World.sampleLoss.map .world ++ [.look 2, .look 1, .world .step]

theorem sampleCalls_resolved :
    (handed (worldActs sampleCalls)).count 1 ≤ 1 ∧
    (run World.sampleSetup sampleCalls).AtRest 1 ∧
    Resolved World.sampleSetup sampleCalls 1 ∧
    World.Happens World.sampleSetup (worldActs sampleCalls) (World.LosesWithConnection 1) ∧
    (run World.sampleSetup sampleCalls).result? 2 = none := by
  have hone : (handed (worldActs sampleCalls)).count 1 ≤ 1 := by decide +kernel
  have hrest : (run World.sampleSetup sampleCalls).AtRest 1 :=
    ⟨by decide +kernel, by decide +kernel⟩
  have hresolved := calls_resolve World.sampleSetup sampleCalls 1 hone hrest
  have hresult : (run World.sampleSetup sampleCalls).result? 1 = some (.error .disconnected) := by
    decide +kernel
  exact ⟨hone, hrest, hresolved, (hresolved.disconnected.1 hresult).loses, by decide +kernel⟩

/-- A call that looks after its request was lost, but only once a caller has stopped the session. -/
def sampleLateLook : List (CallAct Nat) :=
  World.sampleLoss.map .world ++ [.world .shutdown, .look 1, .world .step]

/-- **A late look finds the end of the session.** The request was on its way when the connection was
torn down, and the session was at work then; the call is not told that it was disconnected. So what
became of a request does not settle what its call finds. -/
theorem late_look_finds_closed :
    (World.Happens World.sampleSetup (worldActs sampleLateLook) (World.LosesWithConnection 1) ∧
      ¬ World.Happens World.sampleSetup (worldActs sampleLateLook) (World.LosesAtEnd 1) ∧
      (run World.sampleSetup sampleLateLook).result? 1 = some (.error .sessionClosed)) ∧
    ¬ ∀ (setup : Setup Nat) (acts : List (CallAct Nat)) (handler : Nat),
      (handed (worldActs acts)).count handler ≤ 1 → (run setup acts).AtRest handler →
      ((run setup acts).result? handler = some (.error .disconnected) ↔
        World.Happens setup (worldActs acts) (World.LosesWithConnection handler)) := by
  have hone : (handed (worldActs sampleLateLook)).count 1 ≤ 1 := by decide +kernel
  have hrest : (run World.sampleSetup sampleLateLook).AtRest 1 :=
    ⟨by decide +kernel, by decide +kernel⟩
  have hresult : (run World.sampleSetup sampleLateLook).result? 1 =
      some (.error .sessionClosed) := by decide +kernel
  have hloses : World.Happens World.sampleSetup (worldActs sampleLateLook)
      (World.LosesWithConnection 1) := by
    have hlost : (World.run World.sampleSetup World.sampleLoss).fate? 1 = some .lost := by
      decide +kernel
    have hatwork : (World.run World.sampleSetup World.sampleLoss).stage ≠ .ended := by
      decide +kernel
    have hbefore := ((World.fate?_eq_lost_iff (by decide +kernel)).1 hlost).resolve_right
      fun hg => hatwork (World.stage_of_losesAtEnd hg)
    exact hbefore.append [.shutdown, .step]
  refine ⟨⟨hloses, World.not_losesAtEnd_of_loses hone hloses, hresult⟩, fun hall => ?_⟩
  have hdisconnected := (hall World.sampleSetup sampleLateLook 1 hone hrest).2 hloses
  rw [hresult] at hdisconnected
  cases hdisconnected

end Calls

end PrintClient.Session
