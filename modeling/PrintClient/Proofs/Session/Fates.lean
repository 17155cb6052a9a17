import Mathlib.Data.List.Basic
import Mathlib.Data.List.Induction
import PrintClient.Proofs.Session.Conservation
import PrintClient.Proofs.Session.Shutdown
import PrintClient.Proofs.Session.Teardowns

/-!
# What becomes of a request

The request of a handler that is handed in once comes to at most one end: it is answered, it is lost
with its connection, it is given up when the session ends, or it was refused. Each of the four is
told here by the world in which it happens, and each is recorded by nothing else.

* `Happens`: an act of a run meets a condition on the world in which it is done;
* `World.Answers`, `LosesWithConnection`, `LosesAtEnd`, `Refuses`: the four ends;
* `replied_act`, `lost_act`, `refused_act`: what an act records of them;
* `weight_run`: a handler that is handed in once stands at one place only;
* `fate?_eq_answered_iff`, `fate?_eq_lost_iff`, `fate?_eq_refused_iff`: the fate of a request;
* `TearsDown.waiting`: a teardown leaves a request that is not on its way where it is.
-/

namespace PrintClient.Session

variable {H : Type}

/-- The handler whose operation was refused. -/
def Event.refusal? : Event H → Option H
  | .refused handler => some handler
  | _ => none

/-- The handlers whose operations were refused. -/
def refusals (l : List (Event H)) : List H := l.filterMap Event.refusal?

@[simp] theorem refusals_append (l m : List (Event H)) :
    refusals (l ++ m) = refusals l ++ refusals m :=
  List.filterMap_append

/-- The handlers that callers hand in. -/
def handed (acts : List (Act H)) : List H := acts.filterMap Act.handler?

/-- The handler of a request that is submitted with an act. -/
def Act.submitted? : Act H → Option H
  | .submit _ handler => some handler
  | _ => none

/-- What is recorded of the fate of a handler. -/
def Fate.event (handler : H) : Fate → Event H
  | .answered data => .replied handler data
  | .lost => .lost handler
  | .refused => .refused handler

theorem Event.fate?_eq_some_iff [DecidableEq H] {handler : H} {e : Event H} {f : Fate} :
    e.fate? handler = some f ↔ e = f.event handler := by
  cases e <;> cases f <;> simp [Event.fate?, Fate.event, and_comm]

theorem head?_eq_some_iff_mem {α : Type} {l : List α} (h : l.length ≤ 1) {x : α} :
    l.head? = some x ↔ x ∈ l := by
  match l, h with
  | [], _ => simp
  | [y], _ => simp [eq_comm]

/-- What the session itself records submits and refuses nothing. -/
theorem ends_of_own {es : List (Event H)} (h : ∀ e ∈ es, e.isOwn = true) :
    submitted es = [] ∧ refusals es = [] := by
  constructor
  · refine List.filterMap_eq_nil_iff.2 fun e he => ?_
    have hown := h e he
    cases e <;> first | rfl | cases hown
  · refine List.filterMap_eq_nil_iff.2 fun e he => ?_
    have hown := h e he
    cases e <;> first | rfl | cases hown

namespace World

/-! ### Acts of a run -/

/-- An act of a run meets a condition on the world in which it is done. -/
def Happens (setup : Setup H) (acts : List (Act H)) (P : World H → Act H → Prop) : Prop :=
  ∃ before a after, acts = before ++ a :: after ∧ P (run setup before) a

section Happens

variable {setup : Setup H} {acts : List (Act H)} {P : World H → Act H → Prop}

theorem not_happens_nil : ¬ Happens setup [] P := by
  rintro ⟨before, a, after, h, -⟩
  simp at h

theorem happens_concat {a : Act H} :
    Happens setup (acts ++ [a]) P ↔ Happens setup acts P ∨ P (run setup acts) a := by
  constructor
  · rintro ⟨before, b, after, h, hP⟩
    rcases List.eq_nil_or_concat after with rfl | ⟨later, c, rfl⟩
    · obtain ⟨rfl, hb⟩ := List.append_inj' h rfl
      obtain rfl := List.singleton_inj.1 hb
      exact .inr hP
    · rw [List.concat_eq_append, ← List.cons_append, ← List.append_assoc] at h
      obtain ⟨rfl, -⟩ := List.append_inj' h rfl
      exact .inl ⟨before, b, later, rfl, hP⟩
  · rintro (⟨before, b, after, rfl, hP⟩ | hP)
    · exact ⟨before, b, after ++ [a], by simp, hP⟩
    · exact ⟨acts, a, [], rfl, hP⟩

theorem happens_or {Q : World H → Act H → Prop} :
    Happens setup acts (fun w a => P w a ∨ Q w a) ↔
      Happens setup acts P ∨ Happens setup acts Q := by
  constructor
  · rintro ⟨before, a, after, h, hP | hQ⟩
    · exact .inl ⟨before, a, after, h, hP⟩
    · exact .inr ⟨before, a, after, h, hQ⟩
  · rintro (⟨before, a, after, h, hP⟩ | ⟨before, a, after, h, hQ⟩)
    · exact ⟨before, a, after, h, .inl hP⟩
    · exact ⟨before, a, after, h, .inr hQ⟩

theorem Happens.append (h : Happens setup acts P) (more : List (Act H)) :
    Happens setup (acts ++ more) P := by
  obtain ⟨before, a, after, rfl, hP⟩ := h
  exact ⟨before, a, after ++ more, by simp, hP⟩

end Happens

/-! ### The ends of a request -/

/-- The handlers whose requests are on their way, in the queue or in the channel. -/
def waiting (w : World H) : List H :=
  callers w.session.inFlight.toList ++ callers w.session.queue ++
    w.commands.filterMap Command.handler?

/-- The session takes up the response to the request of a handler, which is on its way: the first
one that was read on the connection after the request was written there. -/
structure Answers (handler : H) (data : Json) (w : World H) (a : Act H) : Prop where
  act : a = .step
  stage : (w.act a).stage = .running
  response : ∃ g id request rest, w.session.held = some g ∧
    w.session.inFlight = some ⟨request, .caller handler⟩ ∧
    w.notices = (g, .completed data) :: rest ∧ (w.act a).notices = rest ∧
    Answered w.history g id ⟨request, .caller handler⟩ data

/-- The connection is torn down on which the request of a handler is on its way, and the session
keeps running. -/
structure LosesWithConnection (handler : H) (w : World H) (a : Act H) : Prop where
  tornDown : w.TornDown (w.act a) handler
  stage : (w.act a).stage ≠ .ended

/-- The session stops while the request of a handler is on its way, in the queue or in the
channel. -/
structure LosesAtEnd (handler : H) (w : World H) (a : Act H) : Prop where
  act : a = .step
  mustEnd : w.MustEnd
  waiting : handler ∈ w.waiting

/-- The handler is handed in after the session has stopped. -/
structure Refuses (handler : H) (w : World H) (a : Act H) : Prop where
  handler : a.handler? = some handler
  stage : w.stage = .ended

section Runs

variable (setup : Setup H) (acts : List (Act H)) (a : Act H)

/-- What an act records while the session has not ended: no refusal, and no submission but that of
the request that is submitted. -/
theorem history_act_of_open (hs : (run setup acts).stage ≠ .ended) :
    ∃ new, ((run setup acts).act a).history = (run setup acts).history ++ new ∧
      refusals new = [] ∧ callers (submitted new) = a.submitted?.toList := by
  have hquiet : ∀ {w' : World H}, w'.history = (run setup acts).history → a.submitted? = none →
      ∃ new, w'.history = (run setup acts).history ++ new ∧
        refusals new = [] ∧ callers (submitted new) = a.submitted?.toList := by
    intro w' hw ha
    exact ⟨[], by rw [hw, List.append_nil], rfl, by rw [ha]; rfl⟩
  have htaken : ∀ c handler, ((run setup acts).tryCommand c handler).history =
      (run setup acts).history := by
    intro c handler
    rcases (run setup acts).command_cases c with ⟨hend, -⟩ | ⟨-, hc⟩
    · exact absurd hend hs
    · rw [tryCommand, hc]
      rfl
  have hlink : ∀ g f, ((run setup acts).updateLink g f).history = (run setup acts).history := by
    intro g f
    obtain ⟨links, -, hw⟩ := (run setup acts).updateLink_eq g f
    rw [hw]
    rfl
  cases a with
  | submit request handler =>
    rcases (run setup acts).command_cases (.submit request handler) with ⟨hend, -⟩ | ⟨-, hc⟩
    · exact absurd hend hs
    · refine ⟨[.accepted request handler], ?_, rfl, rfl⟩
      show ((run setup acts).submit request handler).history = _
      rw [submit, hc]
      exact history_note _ _
  | subscribe event handler => exact hquiet (htaken _ handler) rfl
  | onDisconnect handler => exact hquiet (htaken _ handler) rfl
  | onLogin handler => exact hquiet (htaken _ handler) rfl
  | step =>
    show ∃ new, ((run setup acts).step?.getD _).history = _ ∧ _
    cases h : (run setup acts).step? with
    | none => exact hquiet rfl rfl
    | some w' =>
      obtain ⟨o, hturn, htook⟩ :=
        (step_of_step? h).turn (generations_run setup acts) (exchange_run setup acts)
      obtain ⟨hsub, href⟩ := ends_of_own hturn.isOwn
      exact ⟨o.events, htook.history, href, by rw [hsub]; rfl⟩
  | linkStep g =>
    show ∃ new, (((run setup acts).linkStep? g).getD _).history = _ ∧ _
    cases h : (run setup acts).linkStep? g with
    | none => exact hquiet rfl rfl
    | some w' =>
      obtain ⟨l, l', effects, -, -, rfl⟩ := linkStep?_eq_some h
      refine ⟨effects.filterMap (recordOf g), history_hear _ g effects, ?_, ?_⟩
      · exact filterMap_record (fun _ _ => rfl) (fun _ => rfl) (fun _ => rfl) effects
      · rw [submitted, filterMap_record (fun _ _ => rfl) (fun _ => rfl) (fun _ => rfl) effects]
        rfl
  | offer g outcome => exact hquiet (hlink g _) rfl
  | arrive g i => exact hquiet (hlink g _) rfl
  | breakWrites g reason => exact hquiet (hlink g _) rfl
  | stall g => exact hquiet (hlink g _) rfl
  | resume g => exact hquiet (hlink g _) rfl
  | _ => exact hquiet rfl rfl

/-- What an act of a run records, with who submits and who is refused. -/
theorem history_act :
    ∃ new, ((run setup acts).act a).history = (run setup acts).history ++ new ∧
      refusals new = (if (run setup acts).stage = .ended then a.handler? else none).toList ∧
      callers (submitted new) =
        (if (run setup acts).stage = .ended then none else a.submitted?).toList := by
  by_cases he : (run setup acts).stage = .ended
  · obtain ⟨es, hes, hrefused, -⟩ := onlyRefused_act_of_ended setup acts he a
    refine ⟨es, hes, ?_, ?_⟩
    · rw [if_pos he, refusals, ← filterMap_withoutArmed _ fun _ _ => rfl, hrefused]
      cases a.handler? <;> rfl
    · rw [if_pos he, submitted, ← filterMap_withoutArmed _ fun _ _ => rfl, hrefused]
      cases a.handler? <;> rfl
  · rw [if_neg he, if_neg he]
    exact history_act_of_open setup acts a he

end Runs

/-! ### What is recorded of the ends -/

section Turns

variable {w : World H} {o : Outcome H} {handler : H} {data : Json}

/-- Only a response to the request on its way is handed to a caller. -/
theorem Turn.of_replied (h : w.Turn o) (he : .replied handler data ∈ o.events) :
    ∃ g request rest, w.session.held = some g ∧
      w.session.inFlight = some ⟨request, .caller handler⟩ ∧
      w.notices = (g, .completed data) :: rest ∧ o.notices = rest ∧ o.stage = .running := by
  cases h with
  | reply held notices _ inFlight =>
    obtain ⟨⟩ := List.mem_singleton.1 he
    exact ⟨_, _, _, held, inFlight, notices, rfl, rfl⟩
  | _ => simp [farewell, teardown, hangUp] at he

/-- A session that takes up the response to a caller's request hands it over. -/
theorem Turn.replied_of_taken (h : w.Turn o) {g : Nat} {request : Request}
    {rest : List (Nat × Notice)} (hheld : w.session.held = some g)
    (hi : w.session.inFlight = some ⟨request, .caller handler⟩)
    (hn : w.notices = (g, .completed data) :: rest) (ho : o.notices = rest)
    (hs : o.stage = .running) : .replied handler data ∈ o.events := by
  have hkept : o.notices ≠ w.notices := by
    rw [ho, hn]
    exact fun heq => by simpa using congrArg List.length heq
  cases h with
  | attempt => exact absurd rfl hkept
  | stop => cases hs
  | take => exact absurd rfl hkept
  | register => exact absurd rfl hkept
  | onDisconnect => exact absurd rfl hkept
  | onLogin => exact absurd rfl hkept
  | greet _ notices => rw [hn] at notices; cases notices
  | accept _ _ _ inFlight => rw [hi] at inFlight; cases inFlight
  | reply _ notices _ inFlight =>
    rw [hn] at notices
    rw [hi] at inFlight
    cases notices
    cases inFlight
    exact List.mem_singleton_self _
  | deliver _ notices => rw [hn] at notices; cases notices
  | tearDown _ notices cause =>
    cases cause with
    | reported => rw [hn] at notices; cases notices
    | refused _ inFlight => rw [hi] at inFlight; cases inFlight
  | skip notices stale =>
    rw [hn] at notices
    cases notices
    exact absurd hheld stale

theorem lost_mem_farewell {s : Session H} {commands : List (Command H)} :
    .lost handler ∈ s.farewell commands ↔
      handler ∈ callers s.inFlight.toList ++ callers s.queue ++
        commands.filterMap Command.handler? := by
  simp [farewell]

end Turns

section Runs

variable (setup : Setup H) (acts : List (Act H)) (a : Act H) (handler : H)

/-- **A handler is called with a response by the step alone that takes the response up.** -/
theorem replied_act (data : Json) :
    .replied handler data ∈ ((run setup acts).act a).history ↔
      .replied handler data ∈ (run setup acts).history ∨
        Answers handler data (run setup acts) a := by
  constructor
  · intro h
    rcases act_cases_of_run setup acts a with haside | ⟨rfl, -, o, hturn, htook⟩
    · obtain ⟨es, hes, hh⟩ := haside.history
      rw [hh, List.mem_append] at h
      exact h.imp_right fun he => Bool.noConfusion (hes _ he)
    · rw [htook.history, List.mem_append] at h
      refine h.imp_right fun he => ?_
      obtain ⟨g, request, rest, hheld, hi, hn, ho, hs⟩ := hturn.of_replied he
      -- The notice stands for the first response to the request that is on its way.
      obtain ⟨k, hk, -⟩ := (generations_run setup acts).link?_of_held hheld
      have hst := (exchange_run setup acts).stance g k hheld hk
      have hnews : news g (run setup acts).notices = .completed data :: news g rest := by
        rw [hn]
        simp [news, Notice.isEvent]
      rw [hnews] at hst
      obtain ⟨q, id, hi', -, hanswered⟩ := hst.answered_of_completed
      obtain rfl := Option.some.inj (hi.symm.trans hi')
      exact ⟨rfl, htook.stage.trans hs, g, id, request, rest, hheld, hi, hn,
        htook.notices.trans ho, hanswered⟩
  · rintro (h | ⟨rfl, hs, g, id, request, rest, hheld, hi, hn, ho, -⟩)
    · obtain ⟨new, hh, -⟩ := history_act setup acts a
      rw [hh]
      exact List.mem_append_left _ h
    · cases hstep : (run setup acts).step? with
      | none =>
        have hsame : (run setup acts).act .step = run setup acts := congrArg (Option.getD · _) hstep
        rw [hsame, hn] at ho
        exact absurd (congrArg List.length ho) (by simp)
      | some w' =>
        have hact : (run setup acts).act .step = w' := congrArg (Option.getD · _) hstep
        obtain ⟨o, hturn, htook⟩ :=
          (step_of_step? hstep).turn (generations_run setup acts) (exchange_run setup acts)
        rw [hact] at hs ho ⊢
        rw [htook.history]
        exact List.mem_append_right _ (hturn.replied_of_taken hheld hi hn
          (htook.notices.symm.trans ho) (htook.stage.symm.trans hs))

/-- **The request of a handler is lost with its connection, or given up at the end of the
session.** -/
theorem lost_act :
    .lost handler ∈ ((run setup acts).act a).history ↔ .lost handler ∈ (run setup acts).history ∨
      (LosesWithConnection handler (run setup acts) a ∨ LosesAtEnd handler (run setup acts) a) := by
  obtain ⟨new, hh, hrefusals, -⟩ := history_act setup acts a
  constructor
  · intro h
    rw [hh, List.mem_append] at h
    refine h.imp_right fun hnew => ?_
    by_cases he : (run setup acts).stage = .ended
    · obtain ⟨es, hes, hrefused, -⟩ := onlyRefused_act_of_ended setup acts he a
      rw [List.append_cancel_left (hh.symm.trans hes)] at hnew
      have hleft : .lost handler ∈ withoutArmed es := List.mem_filter.2 ⟨hnew, rfl⟩
      rw [hrefused] at hleft
      simp at hleft
    by_cases hs : ((run setup acts).act a).stage = .ended
    · obtain ⟨rfl, hmust⟩ := mustEnd_of_ended setup acts he hs
      rw [List.append_cancel_left (hh.symm.trans hmust.history_act)] at hnew
      exact .inr ⟨rfl, hmust, lost_mem_farewell.1 hnew⟩
    · refine .inl ⟨tornDown_of_lost setup acts a hs ?_, hs⟩
      rwa [hh, List.drop_left]
  · rintro (h | ⟨⟨⟨request, hi⟩, hheld, hgone, -⟩, hs⟩ | ⟨rfl, hmust, hwaiting⟩)
    · rw [hh]
      exact List.mem_append_left _ h
    · obtain ⟨g, hg⟩ := Option.ne_none_iff_exists'.1 hheld
      rcases tearsDown_of_givesUp setup acts hg (by rw [hgone]; simp) with he | ⟨failure, hdown⟩
      · exact absurd he hs
      · rw [hdown.history, teardown, hi]
        simp [callers, Queued.handler?]
    · rw [hmust.history_act]
      exact List.mem_append_right _ (lost_mem_farewell.2 hwaiting)

/-- **A handler is refused by the act alone that hands it in too late.** -/
theorem refused_act :
    .refused handler ∈ ((run setup acts).act a).history ↔
      .refused handler ∈ (run setup acts).history ∨ Refuses handler (run setup acts) a := by
  obtain ⟨new, hh, hrefusals, -⟩ := history_act setup acts a
  have hmem : .refused handler ∈ new ↔ handler ∈ refusals new := by
    constructor
    · exact fun h => List.mem_filterMap.2 ⟨_, h, rfl⟩
    · intro h
      obtain ⟨e, he, hr⟩ := List.mem_filterMap.1 h
      cases e <;> cases hr
      exact he
  rw [hh, List.mem_append, hmem, hrefusals]
  refine or_congr_right ⟨fun h => ?_, fun h => ?_⟩
  · by_cases he : (run setup acts).stage = .ended
    · rw [if_pos he] at h
      exact ⟨Option.mem_toList.1 h, he⟩
    · rw [if_neg he] at h
      cases h
  · rw [if_pos h.stage]
    exact Option.mem_toList.2 h.handler

/-- What is recorded of one end in a run. -/
theorem mem_history_iff {e : Event H} {P : World H → Act H → Prop}
    (h : ∀ acts a, e ∈ ((run setup acts).act a).history ↔
      e ∈ (run setup acts).history ∨ P (run setup acts) a) :
    e ∈ (run setup acts).history ↔ Happens setup acts P := by
  induction acts using List.reverseRecOn with
  | nil => exact iff_of_false (by simp [run, all, start, history]) not_happens_nil
  | append_singleton acts a ih => rw [run_concat, h, ih, happens_concat]

variable {setup acts handler} in
/-- Once the session has given requests up it has ended. -/
theorem stage_of_losesAtEnd (h : Happens setup acts (LosesAtEnd handler)) :
    (run setup acts).stage = .ended := by
  obtain ⟨before, a, after, rfl, rfl, hmust, -⟩ := h
  rw [run_append]
  exact stage_all_of_ended hmust.stage_act after

end Runs

/-! ### One place at a time -/

section Runs

variable (setup : Setup H) (acts : List (Act H))

/-- Until the session ends, the requests that were submitted have come to their end, or they are on
their way, in the queue or in the channel. -/
theorem callers_submitted (h : (run setup acts).stage ≠ .ended) :
    callers (submitted (run setup acts).history) =
      endings (run setup acts).history ++ (run setup acts).waiting := by
  obtain ⟨hc, hs⟩ := ledger_run setup acts h
  rw [hs, hc.taken, callers_append, callers_append, hc.endings, callers_outstanding,
    callers_entries, waiting, List.append_assoc]

variable [DecidableEq H] (handler : H)

theorem count_handed_le (more : List (Act H)) :
    (handed acts).count handler ≤ (handed (acts ++ more)).count handler :=
  ((List.sublist_append_left acts more).filterMap _).count_le handler

theorem count_submitted_le (a : Act H) :
    a.submitted?.toList.count handler ≤ a.handler?.toList.count handler := by
  cases a <;> simp [Act.submitted?, Act.handler?]

/-- Every handler is submitted or refused at most as often as it is handed in. -/
theorem count_handed :
    (callers (submitted (run setup acts).history)).count handler +
      (refusals (run setup acts).history).count handler ≤ (handed acts).count handler := by
  induction acts using List.reverseRecOn with
  | nil => exact Nat.le_refl 0
  | append_singleton acts a ih =>
    obtain ⟨new, hh, hrefusals, hsubmitted⟩ := history_act setup acts a
    have hnew : (callers (submitted new)).count handler + (refusals new).count handler ≤
        (handed [a]).count handler := by
      rw [hrefusals, hsubmitted]
      have hle := count_submitted_le handler a
      have hone : handed [a] = a.handler?.toList := by
        cases h : a.handler? <;> simp [handed, h]
      rw [hone]
      split <;> simp [hle]
    have hsplit : handed (acts ++ [a]) = handed acts ++ handed [a] := List.filterMap_append
    rw [run_concat, hh, submitted_append, refusals_append, callers_append, List.count_append,
      List.count_append, hsplit, List.count_append]
    omega

/-- **A handler that is handed in once stands at one place only**: its request has come to its end,
it was refused, or it is still waiting. -/
theorem weight_run :
    (endings (run setup acts).history).count handler +
      (refusals (run setup acts).history).count handler +
      (if (run setup acts).stage = .ended then 0 else (run setup acts).waiting.count handler) ≤
    (handed acts).count handler := by
  have hle := count_handed setup acts handler
  by_cases he : (run setup acts).stage = .ended
  · rw [if_pos he, endings_of_ended setup acts he]
    omega
  · rw [callers_submitted setup acts he, List.count_append] at hle
    rw [if_neg he]
    omega

/-! ### The fate of a request -/

theorem fate?_eq (w : World H) : w.fate? handler =
    (w.history.filterMap fun e => e.fate? handler).head? := by
  rw [fate?, history, List.filterMap_map]
  rfl

theorem filterMap_cons_eq {α β : Type} (f : α → Option β) (e : α) (l : List α) :
    (e :: l).filterMap f = (f e).toList ++ l.filterMap f := by
  cases h : f e <;> simp [h]

theorem length_fate?_toList (e : Event H) : (e.fate? handler).toList.length =
    e.ending?.toList.count handler + e.refusal?.toList.count handler := by
  have hone : ∀ (h : H) (f : Fate), (if h = handler then some f else none).toList.length =
      [h].count handler := by
    intro h f
    by_cases hh : h = handler <;> simp [hh]
  cases e with
  | replied h data => exact hone h _
  | lost h => exact hone h _
  | refused h =>
    rw [← Nat.zero_add (List.count _ _)] 
    exact (hone h _).trans (Nat.zero_add _).symm
  | _ => rfl

/-- The fates that are recorded of a handler are its endings and its refusals. -/
theorem length_fates (l : List (Event H)) : (l.filterMap fun e => e.fate? handler).length =
    (endings l).count handler + (refusals l).count handler := by
  induction l with
  | nil => rfl
  | cons e l ih =>
    rw [endings, refusals, filterMap_cons_eq, filterMap_cons_eq, filterMap_cons_eq,
      List.length_append, List.count_append, List.count_append, length_fate?_toList, ih,
      endings, refusals]
    omega

theorem fates_subsingleton (hone : (handed acts).count handler ≤ 1) :
    ((run setup acts).history.filterMap fun e => e.fate? handler).length ≤ 1 := by
  have hweight := weight_run setup acts handler
  rw [length_fates]
  omega

/-- The fate of a handler that is handed in once is the only one that is recorded of it. -/
theorem fate?_eq_some_iff (hone : (handed acts).count handler ≤ 1) {f : Fate} :
    (run setup acts).fate? handler = some f ↔ f.event handler ∈ (run setup acts).history := by
  rw [fate?_eq, head?_eq_some_iff_mem (fates_subsingleton setup acts handler hone),
    List.mem_filterMap]
  simp only [Event.fate?_eq_some_iff, exists_eq_right]

variable {setup acts handler}

theorem fate?_eq_answered_iff (hone : (handed acts).count handler ≤ 1) {data : Json} :
    (run setup acts).fate? handler = some (.answered data) ↔
      Happens setup acts (Answers handler data) := by
  rw [fate?_eq_some_iff setup acts handler hone]
  exact mem_history_iff setup acts fun acts a => replied_act setup acts a handler data

theorem fate?_eq_lost_iff (hone : (handed acts).count handler ≤ 1) :
    (run setup acts).fate? handler = some .lost ↔
      Happens setup acts (LosesWithConnection handler) ∨
        Happens setup acts (LosesAtEnd handler) := by
  rw [fate?_eq_some_iff setup acts handler hone, ← happens_or]
  exact mem_history_iff setup acts fun acts a => lost_act setup acts a handler

theorem fate?_eq_refused_iff (hone : (handed acts).count handler ≤ 1) :
    (run setup acts).fate? handler = some .refused ↔ Happens setup acts (Refuses handler) := by
  rw [fate?_eq_some_iff setup acts handler hone]
  exact mem_history_iff setup acts fun acts a => refused_act setup acts a handler

/-- A request without a fate has come to none of the four ends. -/
theorem fate?_eq_none_iff_not (hone : (handed acts).count handler ≤ 1) :
    (run setup acts).fate? handler = none ↔
      (∀ data, ¬ Happens setup acts (Answers handler data)) ∧
      ¬ Happens setup acts (LosesWithConnection handler) ∧
      ¬ Happens setup acts (LosesAtEnd handler) ∧ ¬ Happens setup acts (Refuses handler) := by
  simp only [← fate?_eq_answered_iff hone, ← fate?_eq_refused_iff hone]
  rw [← and_assoc (a := ¬ _), ← not_or, ← fate?_eq_lost_iff hone]
  constructor
  · intro h
    rw [h]
    simp
  · rintro ⟨hanswered, hlost, hrefused⟩
    cases h : (run setup acts).fate? handler with
    | none => rfl
    | some f =>
      cases f with
      | answered data => exact absurd h (hanswered data)
      | lost => exact absurd h hlost
      | refused => exact absurd h hrefused

/-- A handler without a fate has neither an ending nor a refusal. -/
theorem fate?_eq_none_iff (w : World H) : w.fate? handler = none ↔
    (endings w.history).count handler = 0 ∧ (refusals w.history).count handler = 0 := by
  rw [fate?_eq, List.head?_eq_none_iff, ← List.length_eq_zero_iff, length_fates,
    Nat.add_eq_zero_iff]

/-- A request that is still waiting has come to no end. -/
theorem fate?_eq_none_of_waiting (hone : (handed acts).count handler ≤ 1)
    (hs : (run setup acts).stage ≠ .ended) (hw : handler ∈ (run setup acts).waiting) :
    (run setup acts).fate? handler = none := by
  have hweight := weight_run setup acts handler
  rw [if_neg hs] at hweight
  have hpos := List.count_pos_iff.2 hw
  rw [fate?_eq_none_iff]
  omega

/-- Whoever submits a request is told of in the record, as submitting it or as refused. -/
theorem submitted_or_refused (h : Happens setup acts fun _ a => a.submitted? = some handler) :
    0 < (callers (submitted (run setup acts).history)).count handler +
      (refusals (run setup acts).history).count handler := by
  induction acts using List.reverseRecOn with
  | nil => exact absurd h not_happens_nil
  | append_singleton acts a ih =>
    obtain ⟨new, hh, hrefusals, hsubmitted⟩ := history_act setup acts a
    rw [run_concat, hh, submitted_append, callers_append, refusals_append, List.count_append,
      List.count_append, hsubmitted, hrefusals]
    rcases happens_concat.1 h with h | h
    · have := ih h
      omega
    · have hhanded : a.handler? = some handler := by
        cases a <;> first | exact h | cases h
      rw [h, hhanded]
      split <;> simp only [Option.toList_none, Option.toList_some, List.count_nil,
        List.count_singleton_self] <;> omega

/-- A request that was submitted is waiting as long as it has come to no end. -/
theorem waiting_of_fate?_eq_none (h : Happens setup acts fun _ a => a.submitted? = some handler)
    (hf : (run setup acts).fate? handler = none) :
    (run setup acts).stage ≠ .ended ∧ handler ∈ (run setup acts).waiting := by
  have hpos := submitted_or_refused h
  obtain ⟨hendings, hrefusals⟩ := (fate?_eq_none_iff _).1 hf
  by_cases he : (run setup acts).stage = .ended
  · rw [← endings_of_ended setup acts he] at hpos
    omega
  · rw [callers_submitted setup acts he, List.count_append] at hpos
    exact ⟨he, List.count_pos_iff.1 (by omega)⟩

/-- No request is lost with its connection and given up at the end of the session as well. -/
theorem not_losesAtEnd_of_loses (hone : (handed acts).count handler ≤ 1)
    (hl : Happens setup acts (LosesWithConnection handler)) :
    ¬ Happens setup acts (LosesAtEnd handler) := by
  induction acts using List.reverseRecOn with
  | nil => exact absurd hl not_happens_nil
  | append_singleton acts a ih =>
    intro hg
    have hacts := Nat.le_trans (count_handed_le acts handler [a]) hone
    rcases happens_concat.1 hl with hbefore | hnow
    · rcases happens_concat.1 hg with hg | ⟨rfl, hmust, hw⟩
      · exact ih hacts hbefore hg
      · -- What has come to its end is not waiting any more.
        have hs : (run setup acts).stage ≠ .ended := by
          rw [hmust.stage]
          decide
        have hfate := fate?_eq_none_of_waiting hacts hs hw
        rw [(fate?_eq_lost_iff hacts).2 (.inl hbefore)] at hfate
        cases hfate
    · have hend : ((run setup acts).act a).stage = .ended := by
        rw [← run_concat]
        exact stage_of_losesAtEnd hg
      exact hnow.stage hend

end Runs

/-! ### Teardowns and requests that wait -/

/-- **A teardown leaves the requests in the queue and in the channel where they are**, and takes the
one on its way. -/
theorem TearsDown.waiting (setup : Setup H) (acts : List (Act H)) {a : Act H} {g : Nat}
    {failure : Failure} (h : (run setup acts).TearsDown ((run setup acts).act a) g failure) :
    ((run setup acts).act a).session.inFlight = none ∧
      ((run setup acts).act a).waiting = callers (run setup acts).session.queue ++
        (run setup acts).commands.filterMap Command.handler? := by
  have hs : ((run setup acts).act a).stage ≠ .ended := by
    rw [h.stage]
    decide
  have hidle : ((run setup acts).act a).session.inFlight = none := by
    have hc := (exchange_run setup (acts ++ [a])).coherent
    rw [run_concat] at hc
    exact (hc.apart_of_state (.inl h.session.state)).1
  obtain ⟨new, ended, ha⟩ := accounts_act (generations_run setup acts) a hs
  obtain rfl := List.append_cancel_left (ha.history.symm.trans h.history)
  have hout := congrArg callers ha.outstanding
  rw [taken_teardown, List.append_nil, callers_append, ← ha.endings, endings_teardown,
    callers_outstanding, callers_outstanding, List.append_cancel_left_eq, hidle] at hout
  have hcommands := congrArg callers ha.commands
  rw [submitted_teardown, taken_teardown, List.append_nil, List.nil_append, callers_entries,
    callers_entries] at hcommands
  refine ⟨hidle, ?_⟩
  rw [World.waiting, hidle, hcommands, hout]

/-- So nothing becomes of them. -/
theorem TearsDown.fate?_of_queued [DecidableEq H] {setup : Setup H} {acts : List (Act H)}
    {a : Act H} {g : Nat} {failure : Failure} {handler : H}
    (h : (run setup acts).TearsDown ((run setup acts).act a) g failure)
    (hone : (handed (acts ++ [a])).count handler ≤ 1)
    (hw : handler ∈ callers (run setup acts).session.queue ++
      (run setup acts).commands.filterMap Command.handler?) :
    (run setup (acts ++ [a])).fate? handler = none ∧
      handler ∈ callers ((run setup acts).act a).session.queue ++
        ((run setup acts).act a).commands.filterMap Command.handler? := by
  obtain ⟨hidle, hwaiting⟩ := h.waiting
  rw [← hwaiting] at hw
  refine ⟨fate?_eq_none_of_waiting hone ?_ (by rwa [run_concat]), ?_⟩
  · rw [run_concat, h.stage]
    decide
  · rwa [World.waiting, hidle] at hw

end World

end PrintClient.Session
