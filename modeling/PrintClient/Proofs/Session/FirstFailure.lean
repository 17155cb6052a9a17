import Mathlib.Data.List.Basic
import Mathlib.Data.List.Induction
import PrintClient.Proofs.Connection.Moves
import PrintClient.Proofs.Session.Fates
import PrintClient.Proofs.Session.Links

/-!
# The first failure of a session

A session connects again after a failure, so what it is later says little about its first attempt.
The record does: the first failure that callers are told of is that of the first connection, and it
is the refusal of the login exactly if the server has refused it.

* `Act.isForeign`: what happens to a session while its callers do nothing;
* `attended_of_foreign`: then it does not end;
* `kind_of_step?`, `Plain`: no connection tells of a refusal;
* `first_attempt`, `login_of_connected`: until a failure is told of there is no second connection;
* `FailsFirst`, `failsFirst_of_failure?`: what the first failure comes of.
-/

namespace PrintClient

namespace Link

open Connection

variable {R E : Type} {l l' : Link R E} {now : Nat} {effects : List (Effect R E)}

/-- **A connection tells of a refusal only if the way to the server ended with one.** -/
theorem kind_of_step? (h : l.step? now = some (l', effects)) {failure : Failure}
    (hmem : .failed failure ∈ effects) :
    failure.kind ≠ .notOk ∨ l.outcome = some (.error failure) := by
  cases move_of_step? h with
  | opened => simp at hmem
  | refused _ _ outcome =>
    obtain rfl : failure = _ := by simpa using hmem
    exact .inr outcome
  | stopped => simp at hmem
  | finished => simp at hmem
  | talked phase _ talk =>
    refine .inl ?_
    rcases step?_read_or_not h with ⟨t, i, rest, hp, -, -, -, heq⟩ | ⟨-, hnone⟩
    · cases heq
      rcases List.mem_cons.1 hmem with hread | hmem
      · cases hread
      · rcases kind_of_receive hp hmem with hkind | hkind <;> rw [hkind] <;> decide
    · cases talk with
      | subscribed => cases hmem
      | wrote => simp at hmem
      | givenUp => simp at hmem
      | unwritable =>
        obtain rfl : failure = .webSocket _ := by simpa using hmem
        simp [Failure.kind]
      | expired =>
        obtain rfl : failure = .timeout _ _ := by simpa using hmem
        simp [Failure.kind]
      | read => exact absurd (hnone _ List.mem_cons_self) (by simp [Effect.isOfFrame])
      | answered => exact absurd (hnone _ List.mem_cons_self) (by simp [Effect.isOfFrame])
      | failed => exact absurd (hnone _ List.mem_cons_self) (by simp [Effect.isOfFrame])
  | wrote _ step =>
    refine .inl ?_
    cases step with
    | unwritable =>
      obtain rfl : failure = .webSocket _ := by simpa using hmem
      simp [Failure.kind]
    | _ => simp at hmem

end Link

namespace Session

variable {H : Type}

/-- What happens to a session while its callers do nothing: the session and its connections go on,
the transport does what it does, though no way to the server ends with a refusal, and time
passes. -/
def Act.isForeign : Act H → Bool
  | .step | .linkStep _ | .arrive .. | .breakWrites .. | .stall _ | .resume _ | .elapse _ => true
  | .offer _ (.ok ()) => true
  | .offer _ (.error failure) => decide (failure.kind ≠ .notOk)
  | _ => false

theorem Act.isWish_of_isForeign {a : Act H} (h : a.isForeign = true) : a.isWish = false := by
  cases a <;> first | rfl | cases h

namespace World

variable {w w' : World H}

/-! ### Connections and how the way to the server ended -/

/-- A link is a new one, or the way to the server ended on it as before. -/
def SameOutcomes (w w' : World H) : Prop :=
  ∀ g l', w'.link? g = some l' →
    l'.outcome = none ∨ ∃ l, w.link? g = some l ∧ l'.outcome = l.outcome

/-- A step of the session leaves it as it is how the way to the server ended. -/
theorem Step.sameOutcomes (h : w.Step w') : w.SameOutcomes w' := by
  intro g l' hl'
  rcases h.keepsLinks g l' hl' with ⟨s, -, rfl⟩ | ⟨l, hl, hkept⟩
  · exact .inl rfl
  · exact .inr ⟨l, hl, hkept.outcome⟩

/-! ### Sessions whose callers do nothing -/

section Foreign

variable {setup : Setup H} {acts : List (Act H)}

/-- **A session that one caller can reach and nobody wants to end does not end.** -/
theorem attended_of_foreign (h : ∀ a ∈ acts, a.isForeign = true) :
    (run setup acts).cancelled = false ∧ (run setup acts).handles = 1 ∧
      (run setup acts).stage ≠ .ended := by
  induction acts using List.reverseRecOn with
  | nil => exact ⟨rfl, rfl, fun h => by cases h⟩
  | append_singleton acts a ih =>
    obtain ⟨hc, hh, hs⟩ := ih fun b hb => h b (List.mem_append_left _ hb)
    have hwish : a.isWish = false := Act.isWish_of_isForeign (h a (by simp))
    have hsame := (run setup acts).sameWish_act hwish
    rw [run_concat, hsame.cancelled, hsame.handles]
    refine ⟨hc, hh, fun hend => ?_⟩
    obtain ⟨-, -, hcancelled | ⟨-, hnone⟩⟩ := mustEnd_of_ended setup acts hs hend
    · rw [hc] at hcancelled
      cases hcancelled
    · rw [hh] at hnone
      cases hnone

/-- No connection tells of a refusal, and no way to the server ended with one. -/
structure Plain (w : World H) : Prop where
  notices : ∀ g failure, (g, .failed failure) ∈ w.notices → failure.kind ≠ .notOk
  outcomes : ∀ g l failure, w.link? g = some l → l.outcome = some (.error failure) →
    failure.kind ≠ .notOk

theorem Plain.mono (h : w.Plain) (hn : ∀ p ∈ w'.notices, p ∈ w.notices)
    (ho : w.SameOutcomes w') : w'.Plain where
  notices g failure hmem := h.notices g failure (hn _ hmem)
  outcomes := by
    intro g l' failure hl' hf
    rcases ho g l' hl' with hnone | ⟨l, hl, hsame⟩
    · rw [hnone] at hf
      cases hf
    · exact h.outcomes g l failure hl (hsame ▸ hf)

/-- A turn of the session takes at most what waits in its channel. -/
theorem Turn.mem_notices {o : Outcome H} (h : w.Turn o) {p : Nat × Notice} (hp : p ∈ o.notices) :
    p ∈ w.notices := by
  cases h with
  | stop => cases hp
  | greet _ notices => exact notices ▸ List.mem_cons_of_mem _ hp
  | accept _ notices => exact notices ▸ List.mem_cons_of_mem _ hp
  | reply _ notices => exact notices ▸ List.mem_cons_of_mem _ hp
  | deliver _ notices => exact notices ▸ List.mem_cons_of_mem _ hp
  | tearDown _ notices => exact notices ▸ List.mem_cons_of_mem _ hp
  | skip notices => exact notices ▸ List.mem_cons_of_mem _ hp
  | _ => exact hp

theorem Plain.hear (h : w.Plain) {g : Nat} {l l' : SessionLink H}
    {effects : List (Connection.Effect (Reply H) String)} (hl : w.link? g = some l)
    (hs : l.step? w.clock = some (l', effects)) : ((w.setLink g l').hear g effects).Plain := by
  have hnotices : ∀ g' failure, (g', .failed failure) ∈ w.notices ++
      (effects.filterMap noticeOf).map (fun n => (g, n)) → failure.kind ≠ .notOk := by
    intro g' failure hmem
    rcases List.mem_append.1 hmem with hold | hnew
    · exact h.notices g' failure hold
    · obtain ⟨n, hn, heq⟩ := List.mem_map.1 hnew
      cases heq
      obtain ⟨e, he, hnotice⟩ := List.mem_filterMap.1 hn
      cases e <;> cases hnotice
      exact (Link.kind_of_step? hs he).elim id (h.outcomes g l failure hl)
  have houtcomes : ∀ g' k failure, (w.setLink g l').link? g' = some k →
      k.outcome = some (.error failure) → failure.kind ≠ .notOk := by
    intro g' k failure hk hf
    rw [link?_setLink] at hk
    split at hk
    · cases hk
      rw [(Link.move_of_step? hs).outcome] at hf
      exact h.outcomes g l failure hl hf
    · exact h.outcomes g' k failure hk hf
  rcases (w.setLink g l').hear_cases g effects with ⟨-, hw⟩ | ⟨-, hw⟩ <;> rw [hw]
  · exact ⟨h.notices, houtcomes⟩
  · exact ⟨hnotices, houtcomes⟩

theorem Plain.updateLink (h : w.Plain) (g : Nat) {f : SessionLink H → SessionLink H}
    (hf : ∀ l failure, (f l).outcome = some (.error failure) →
      l.outcome = some (.error failure) ∨ failure.kind ≠ .notOk) : (w.updateLink g f).Plain := by
  obtain ⟨links, hl, hw⟩ := w.updateLink_eq g f
  rw [hw]
  refine ⟨h.notices, fun g' k failure hk ho => ?_⟩
  have hlookup : links.lookup g' = some k := hk
  rw [hl g'] at hlookup
  split at hlookup
  · obtain ⟨l, hl', rfl⟩ := Option.map_eq_some_iff.1 hlookup
    exact (hf l failure ho).elim (h.outcomes g l failure hl') id
  · exact h.outcomes g' k failure hlookup ho

/-- **While callers do nothing, no connection tells of a refusal.** -/
theorem plain_of_foreign (h : ∀ a ∈ acts, a.isForeign = true) : (run setup acts).Plain := by
  induction acts using List.reverseRecOn with
  | nil => exact ⟨fun _ _ h => (by cases h), fun _ _ _ h => (by cases h)⟩
  | append_singleton acts a ih =>
    have hplain := ih fun b hb => h b (List.mem_append_left _ hb)
    have ha : a.isForeign = true := h a (by simp)
    rw [run_concat]
    cases a with
    | step =>
      show ((run setup acts).step?.getD _).Plain
      cases hs : (run setup acts).step? with
      | none => exact hplain
      | some w' =>
        have hstep := step_of_step? hs
        obtain ⟨o, hturn, htook⟩ :=
          hstep.turn (generations_run setup acts) (exchange_run setup acts)
        exact hplain.mono (fun p hp => hturn.mem_notices (htook.notices ▸ hp)) hstep.sameOutcomes
    | linkStep g =>
      show (((run setup acts).linkStep? g).getD _).Plain
      cases hs : (run setup acts).linkStep? g with
      | none => exact hplain
      | some w' =>
        obtain ⟨l, l', effects, hl, hlink, rfl⟩ := linkStep?_eq_some hs
        exact hplain.hear hl hlink
    | offer g outcome =>
      refine hplain.updateLink g fun l failure hf => ?_
      simp only [Link.offer, Option.or_eq_some_iff, Option.some.injEq] at hf
      rcases hf with hf | ⟨-, rfl⟩
      · exact .inl hf
      · exact .inr (of_decide_eq_true ha)
    | arrive g i => exact hplain.updateLink g fun l failure hf => .inl hf
    | breakWrites g reason => exact hplain.updateLink g fun l failure hf => .inl hf
    | stall g => exact hplain.updateLink g fun l failure hf => .inl hf
    | resume g => exact hplain.updateLink g fun l failure hf => .inl hf
    | elapse milliseconds => exact ⟨hplain.notices, hplain.outcomes⟩
    | _ => cases ha

end Foreign

/-! ### The first attempt -/

end World

/-- The failure that a caller is told of. -/
def Event.failure? : Event H → Option Failure
  | .disconnected _ failure => some failure
  | _ => none

namespace World

/-- The first failure that callers were told of. -/
def failure? (w : World H) : Option Failure := w.history.findSome? Event.failure?

/-- The session takes up the first response to the login on its first connection, and the server has
refused it. -/
def LoginRefused (w : World H) : Prop :=
  w.session.inFlight = some w.session.loginEntry ∧
  ∃ data rest, w.notices = (1, .completed data) :: rest ∧
    Answered w.history 1 1 w.session.loginEntry data ∧ data.member? "ok" = some (.bool false)

/-- The first connection of a session is torn down because of a failure, the first one that callers
are told of. -/
structure FailsFirst (failure : Failure) (w : World H) (a : Act H) : Prop where
  act : a = .step
  untold : w.failure? = none
  tornDown : w.TearsDown (w.act a) 1 failure
  refused : failure.kind = .notOk ↔ w.LoginRefused

section FirstAttempt

variable {setup : Setup H} {acts : List (Act H)} {w w' : World H}

theorem failure?_of_history {es : List (Event H)} (h : w'.history = w.history ++ es) :
    w'.failure? = w.failure?.or (es.findSome? Event.failure?) := by
  rw [failure?, h, List.findSome?_append]
  rfl

theorem failure?_of_not_own {es : List (Event H)} (h : ∀ e ∈ es, e.isOwn = false) :
    es.findSome? Event.failure? = none := by
  rw [List.findSome?_eq_none_iff]
  intro e he
  have hown := h e he
  cases e <;> first | rfl | cases hown

/-- A teardown tells all of its failure, if there is anybody to tell. -/
theorem failure?_teardown {s : Session H} (h : s.onDisconnect ≠ []) (failure : Failure) :
    (s.teardown failure).findSome? Event.failure? = some failure := by
  have hlost : ((callers s.inFlight.toList).map Event.lost).findSome? Event.failure? = none := by
    simp [Event.failure?]
  rw [teardown, List.findSome?_append, hlost, Option.none_or, hangUp]
  cases hd : s.onDisconnect with
  | nil => exact absurd hd h
  | cons handler rest => rfl

/-- Only a teardown tells of a failure. -/
theorem Turn.failure?_events {o : Outcome H} (h : w.Turn o) :
    o.events.findSome? Event.failure? = none ∨ ∃ g notice failure rest, w.session.held = some g ∧
      w.notices = (g, notice) :: rest ∧ w.Cause notice failure ∧
      o = { session := w.session.tornDown w.clock, events := w.session.teardown failure,
            commands := w.commands, notices := rest } := by
  cases h with
  | tearDown held notices cause => exact .inr ⟨_, _, _, _, held, notices, cause, rfl⟩
  | stop =>
    refine .inl (List.findSome?_eq_none_iff.2 ?_)
    simp only [farewell, List.forall_mem_append, List.forall_mem_cons, List.forall_mem_map]
    exact ⟨⟨fun _ _ => rfl, fun _ _ => rfl⟩, rfl, fun _ _ => rfl⟩
  | _ => exact .inl (List.findSome?_eq_none_iff.2 (by simp [Event.failure?]))

/-- Whoever is to be told of failures stays so. -/
theorem onDisconnect_run (h : setup.onDisconnect ≠ []) (acts : List (Act H)) :
    (run setup acts).session.onDisconnect ≠ [] := by
  refine run_induction (P := fun w => w.session.onDisconnect ≠ []) ?_ ?_ acts
  · obtain ⟨subscriptions, hs⟩ := setup.session_eq
    rw [hs]
    exact h
  · intro acts a ih
    rcases act_cases_of_run setup acts a with haside | ⟨-, -, o, hturn, htook⟩
    · rw [haside.session]
      exact ih
    · have hsame := congrArg Session.onDisconnect htook.session
      rw [hsame]
      cases hturn with
      | onDisconnect => exact List.append_ne_nil_of_left_ne_nil ih _
      | _ => exact ih

/-- **Until a failure is told of, a session makes its first attempt.** -/
theorem first_attempt (h : setup.onDisconnect ≠ []) (hf : (run setup acts).failure? = none)
    (hs : (run setup acts).stage ≠ .ended) :
    ((run setup acts).stage = .starting ∧ (run setup acts).session.generation = 0) ∨
      ((run setup acts).session.held = some 1 ∧ (run setup acts).session.generation = 1) := by
  induction acts using List.reverseRecOn with
  | nil =>
    obtain ⟨subscriptions, hsession⟩ := setup.session_eq
    refine .inl ⟨rfl, ?_⟩
    show setup.session.generation = 0
    rw [hsession]
    rfl
  | append_singleton acts a ih =>
    rw [run_concat] at hf hs ⊢
    have hne : (run setup acts).stage ≠ .ended := fun he => hs (stage_act_of_ended he a)
    rcases act_cases_of_run setup acts a with haside | ⟨rfl, -, o, hturn, htook⟩
    · obtain ⟨es, -, hh⟩ := haside.history
      rw [failure?_of_history hh, Option.or_eq_none_iff] at hf
      rw [haside.session, haside.stage]
      exact ih hf.1 hne
    · rw [failure?_of_history htook.history, Option.or_eq_none_iff] at hf
      rcases ih hf.1 hne with ⟨hstart, hgen⟩ | ⟨hheld, hgen⟩
      · refine .inr ?_
        rw [act_step_of_starting hstart, connect_eq]
        show some ((run setup acts).session.generation + 1) = some 1 ∧
          (run setup acts).session.generation + 1 = 1
        rw [hgen]
        exact ⟨rfl, rfl⟩
      · rw [htook.session.held, htook.session.generation]
        cases hturn with
        | attempt held => rw [hheld] at held; cases held
        | stop => exact absurd htook.stage hs
        | tearDown =>
          rw [failure?_teardown (onDisconnect_run h acts)] at hf
          cases hf.2
        | _ => exact .inr ⟨hheld, hgen⟩

/-- **A session that is logged in is so on its first connection, unless a failure was told of.** -/
theorem login_of_connected (h : setup.onDisconnect ≠ [])
    (hs : (run setup acts).session.state = .connected) :
    ∃ g, (run setup acts).session.held = some g ∧ LoggedIn (run setup acts).history g ∧
      ((run setup acts).failure? = none → g = 1) := by
  have hg := generations_run setup acts
  have hheld : (run setup acts).session.held ≠ none := fun hnone => by
    rw [hg.state.2 hnone] at hs
    cases hs
  obtain ⟨g, hsome⟩ := Option.ne_none_iff_exists'.1 hheld
  refine ⟨g, hsome, (exchange_run setup acts).loggedIn g hsome hs, fun hf => ?_⟩
  have hrunning := hg.running hheld
  rcases first_attempt h hf (by rw [hrunning]; decide) with ⟨hstart, -⟩ | ⟨hone, -⟩
  · rw [hrunning] at hstart
    cases hstart
  · exact Option.some.inj (hsome.symm.trans hone)

/-- A login is refused by its flag alone. -/
theorem checkOk_eq_error {action : String} {data : Json} {failure : Failure}
    (h : checkOk action data = .error failure) :
    failure.kind = .notOk ↔ data.member? "ok" = some (.bool false) := by
  unfold checkOk at h
  cases hm : data.member? "ok" with
  | none =>
    rw [hm] at h
    cases h
    simp [Failure.kind]
  | some v =>
    rw [hm] at h
    cases v with
    | bool b =>
      cases b with
      | false => cases h; simp [Failure.kind]
      | true => cases h
    | _ => cases h; simp [Failure.kind]

/-- A teardown tells of a refusal if and only if the server has refused the login. -/
theorem Cause.kind_eq_notOk_iff {key : String} (hg : w.Generations) (hx : w.Exchange key)
    (hplain : w.Plain) {notice : Notice} {failure : Failure} {rest : List (Nat × Notice)}
    (hheld : w.session.held = some 1) (hn : w.notices = (1, notice) :: rest)
    (hcause : w.Cause notice failure) : failure.kind = .notOk ↔ w.LoginRefused := by
  cases hcause with
  | reported =>
    refine iff_of_false (hplain.notices 1 failure (hn ▸ List.mem_cons_self)) ?_
    rintro ⟨-, data, rest', hn', -⟩
    rw [hn] at hn'
    cases hn'
  | @refused data _ state inFlight refusal =>
    rw [checkOk_eq_error refusal]
    constructor
    · intro hok
      obtain ⟨k, hk, -⟩ := hg.link?_of_held hheld
      have hst := hx.stance 1 k hheld hk
      have hnews : news 1 w.notices = .completed data :: news 1 rest := by
        rw [hn]
        simp [news, Notice.isEvent]
      rw [hnews] at hst
      obtain ⟨q, id, hi, hlogin, hanswered⟩ := hst.answered_of_completed
      obtain rfl := Option.some.inj (inFlight.symm.trans hi)
      rw [hlogin.1 rfl] at hanswered
      exact ⟨inFlight, data, rest, hn, hanswered, hok⟩
    · rintro ⟨-, data', rest', hn', -, hok⟩
      rw [hn] at hn'
      cases hn'
      exact hok

/-- **The first failure that is told of is that of the first connection.** -/
theorem failsFirst_of_failure? (h : setup.onDisconnect ≠ [])
    (hforeign : ∀ a ∈ acts, a.isForeign = true) {failure : Failure}
    (hf : (run setup acts).failure? = some failure) :
    Happens setup acts (FailsFirst failure) := by
  induction acts using List.reverseRecOn with
  | nil => cases hf
  | append_singleton acts a ih =>
    have hbefore : ∀ b ∈ acts, b.isForeign = true := fun b hb =>
      hforeign b (List.mem_append_left _ hb)
    rw [run_concat] at hf
    cases htold : (run setup acts).failure? with
    | some failure' =>
      obtain ⟨new, hh, -⟩ := history_act setup acts a
      rw [failure?_of_history hh, htold] at hf
      cases hf
      exact (ih hbefore htold).append [a]
    | none =>
      refine happens_concat.2 (.inr ?_)
      rcases act_cases_of_run setup acts a with haside | ⟨rfl, hs, o, hturn, htook⟩
      · obtain ⟨es, hes, hh⟩ := haside.history
        rw [failure?_of_history hh, htold, failure?_of_not_own hes] at hf
        cases hf
      · rw [failure?_of_history htook.history, htold, Option.none_or] at hf
        rcases hturn.failure?_events with
          hnone | ⟨g, notice, failure', rest, hheld, hn, hcause, rfl⟩
        · rw [hnone] at hf
          cases hf
        · rw [failure?_teardown (onDisconnect_run h acts)] at hf
          cases hf
          -- Only the first connection can have been held so far.
          have hg := generations_run setup acts
          have hfirst : g = 1 := by
            rcases first_attempt h htold hs with ⟨hstart, -⟩ | ⟨hone, -⟩
            · rw [hg.held_of_starting hstart] at hheld
              cases hheld
            · exact Option.some.inj (hheld.symm.trans hone)
          subst hfirst
          exact ⟨rfl, htold, ⟨hheld, htook.session, htook.trace, htook.stage⟩,
            hcause.kind_eq_notOk_iff hg (exchange_run setup acts) (plain_of_foreign hbefore) hheld
              hn⟩

end FirstAttempt

end World

end Session

end PrintClient
