import Mathlib.Data.List.Induction
import PrintClient.Proofs.Connection.Reading
import PrintClient.Proofs.Session.Turns

/-!
# What arrives on a connection

The transport of a connection is a queue. What the connection has read and what is still unread is
all that has arrived since it was made, in the same order.

* `readsOn`, `arrivals`: what was read on a connection, and what has arrived for it;
* `World.unread?`: what is unread on a connection, if there is one;
* `unread?_step`: a step of the session reads nothing;
* `unread?_hear`: a step of a connection reads what arrived first, or it reads nothing;
* `Arrived`, `arrived_run`: what was read and what is unread in any run.
-/

namespace PrintClient.Session

open scoped List

variable {H : Type}

/-- What was read on a connection. -/
def Event.readOn? (g : Nat) : Event H → Option Inbound
  | .read g' i => if g' = g then some i else none
  | _ => none

/-- What was read on a connection, in this order. -/
def readsOn (g : Nat) (l : List (Event H)) : List Inbound := l.filterMap (Event.readOn? g)

/-- What arrives for a connection. -/
def Act.arrival? (g : Nat) : Act H → Option Inbound
  | .arrive g' i => if g' = g then some i else none
  | _ => none

/-- What arrives for a connection, in this order. -/
def arrivals (g : Nat) (acts : List (Act H)) : List Inbound := acts.filterMap (Act.arrival? g)

theorem readsOn_append (g : Nat) (l m : List (Event H)) :
    readsOn g (l ++ m) = readsOn g l ++ readsOn g m :=
  List.filterMap_append

theorem readsOn_of_isOwn {es : List (Event H)} (h : ∀ e ∈ es, e.isOwn = true) (g : Nat) :
    readsOn g es = [] := by
  refine List.filterMap_eq_nil_iff.2 fun e he => ?_
  have hown := h e he
  cases e with
  | read => cases hown
  | _ => rfl

theorem readsOn_of_isQuiet {es : List (Event H)} (h : ∀ e ∈ es, e.IsQuiet) (g : Nat) :
    readsOn g es = [] := by
  refine List.filterMap_eq_nil_iff.2 fun e he => ?_
  have hquiet := h e he
  cases e with
  | read => cases hquiet
  | _ => rfl

namespace World

/-- What is unread on a connection, if there is one. -/
def unread? (w : World H) (g : Nat) : Option (List Inbound) := (w.link? g).map Link.unread

variable {w w' : World H}

/-! ### Steps of the session -/

theorem unread?_advance (w : World H) (g : Nat) : w.advance.unread? g = w.unread? g := by
  rcases w.advance_cases with hw | ⟨g', l, q, rest, -, -, -, -, hl, hw⟩ <;> rw [hw]
  show ((w.setLink g' _).link? g).map _ = _
  rw [link?_setLink, unread?]
  split
  · rename_i hg
    rw [hg, hl]
    rfl
  · rfl

/-- Closing a connection leaves what is unread. -/
theorem unread?_of_lookup {links : List (Nat × SessionLink H)} (hw : w'.links = links)
    (hl : ∀ g, links.lookup g = if w.session.held = some g
      then (w.link? g).map Link.close else w.link? g) (g : Nat) :
    w'.unread? g = w.unread? g := by
  unfold unread? link?
  rw [hw, hl g]
  split
  · simp only [Option.map_map]
    rfl
  · rfl

theorem unread?_fail (w : World H) (failure : Failure) (g : Nat) :
    (w.fail failure).unread? g = w.unread? g := by
  obtain ⟨links, hl, hw⟩ := w.fail_eq failure
  rw [hw]
  exact unread?_of_lookup (w := w) rfl hl g

theorem unread?_stop (w : World H) (g : Nat) : w.stop.unread? g = w.unread? g := by
  obtain ⟨links, hl, hw⟩ := w.stop_eq
  rw [hw]
  exact unread?_of_lookup (w := w) rfl hl g

theorem unread?_obey (w : World H) (command : Command H) (g : Nat) :
    (w.obey command).unread? g = w.unread? g := by
  cases command with
  | submit request handler => exact unread?_advance _ g
  | subscribe event handler =>
    obtain ⟨links, hl, hw⟩ := w.obey_subscribe_eq event handler
    rw [hw]
    unfold unread?
    show (links.lookup g).map _ = _
    rcases hl g with hg | hg <;> rw [hg]
    simp [Function.comp_def]
  | onDisconnect handler => rfl
  | onLogin handler => rfl

theorem unread?_complete (w : World H) (data : Json) (g : Nat) :
    (w.complete data).unread? g = w.unread? g := by
  cases hi : w.session.inFlight with
  | none => simp [World.complete, hi]
  | some q =>
    cases hr : q.reply with
    | login =>
      cases hok : checkOk q.request.action data with
      | ok =>
        rw [complete_of_accepted hi data hr hok]
        exact unread?_advance _ g
      | error failure =>
        rw [complete_of_refused hi data hr hok]
        exact unread?_fail _ failure g
    | caller handler =>
      rw [complete_of_caller hi data hr]
      exact unread?_advance _ g

theorem unread?_heed (w : World H) (notice : Notice) (g : Nat) :
    (w.heed notice).unread? g = w.unread? g := by
  cases notice with
  | handshaked =>
    show w.greet.unread? g = _
    rw [greet_eq]
    exact unread?_advance _ g
  | completed data => exact w.unread?_complete data g
  | failed failure => exact w.unread?_fail failure g
  | event e => rfl

theorem AllClosed.unread?_connect (h : w.AllClosed) (g : Nat) :
    w.connect.unread? g = w.unread? g ∨
      w.unread? g = none ∧ w.connect.unread? g = some [] := by
  unfold unread?
  rw [h.link?_connect]
  split
  · rename_i hg
    cases hl : w.link? g with
    | none => exact .inr ⟨rfl, rfl⟩
    | some l =>
      -- No generation is used twice.
      have := (h.closed g l.connection.cancelled (by simp [isClosed?, hl])).1
      omega
  · exact .inl rfl

/-- A step of the session reads nothing. -/
theorem unread?_step (hg : w.Generations) (hs : w.Step w') (g : Nat) :
    w'.unread? g = w.unread? g ∨ w.unread? g = none ∧ w'.unread? g = some [] := by
  cases hs with
  | start stage =>
    have hc := hg.allClosed (hg.held_of_starting stage)
    exact AllClosed.unread?_connect ⟨hc.closed, hc.notices, hc.writes⟩ g
  | stop => exact .inl (w.unread?_stop g)
  | obey => exact .inl (unread?_obey _ _ g)
  | heed => exact .inl (unread?_heed _ _ g)
  | skip => exact .inl rfl
  | retry _ _ _ due =>
    have hc := hg.allClosed (hg.held_of_isDue due)
    exact AllClosed.unread?_connect ⟨hc.closed, hc.notices, hc.writes⟩ g

/-! ### Other acts -/

theorem unread?_updateLink (w : World H) (g g' : Nat) (f : SessionLink H → SessionLink H) :
    (w.updateLink g f).unread? g' =
      if g' = g then (w.link? g).map fun l => (f l).unread else w.unread? g' := by
  obtain ⟨links, hl, hw⟩ := w.updateLink_eq g f
  rw [hw]
  unfold unread?
  show (links.lookup g').map _ = _
  rw [hl g']
  split
  · rw [Option.map_map]
    rfl
  · rfl

/-- Nothing more was read on a connection, and nothing has arrived. -/
structure SameReads (w w' : World H) (g : Nat) : Prop where
  unread : w'.unread? g = w.unread? g
  history : readsOn g w'.history = readsOn g w.history

theorem sameReads_updateLink (w : World H) (g g' : Nat) {f : SessionLink H → SessionLink H}
    (hf : ∀ l, (f l).unread = l.unread) : w.SameReads (w.updateLink g' f) g := by
  refine ⟨?_, ?_⟩
  · rw [unread?_updateLink]
    split
    · rename_i hg
      rw [hg]
      exact congrArg (fun k => (w.link? g').map k) (funext hf)
    · rfl
  · obtain ⟨links, -, hw⟩ := w.updateLink_eq g' f
    rw [hw]
    rfl

theorem sameReads_note (w : World H) {es : List (Event H)} (hes : ∀ e ∈ es, e.IsQuiet) (g : Nat) :
    w.SameReads (w.note es) g := by
  refine ⟨rfl, ?_⟩
  rw [history_note, readsOn_append, readsOn_of_isQuiet hes, List.append_nil]

theorem sameReads_tryCommand (w : World H) (c : Command H) (handler : H) (g : Nat) :
    w.SameReads (w.tryCommand c handler) g := by
  rcases w.command_cases c with ⟨-, hc⟩ | ⟨-, hc⟩ <;> rw [tryCommand, hc]
  · exact w.sameReads_note (by simp) g
  · exact ⟨rfl, rfl⟩

theorem sameReads_submit (w : World H) (request : Request) (handler : H) (g : Nat) :
    w.SameReads (w.submit request handler) g := by
  rcases w.command_cases (.submit request handler) with ⟨-, hc⟩ | ⟨-, hc⟩ <;> rw [submit, hc]
  · exact w.sameReads_note (by simp) g
  · have haccepted : ∀ e ∈ [Event.accepted request handler], e.IsQuiet := by simp
    have hsame := sameReads_note { w with commands := w.commands ++ [.submit request handler] }
      haccepted g
    exact ⟨hsame.unread, hsame.history⟩

/-- In this form it is a case of what acts do that may bring something. -/
theorem SameReads.append_nil {g : Nat} (h : w.SameReads w' g) :
    w'.unread? g = (w.unread? g).map (· ++ []) ∧ readsOn g w'.history = readsOn g w.history :=
  ⟨by simpa using h.unread, h.history⟩

/-- What arrives is put at the end. -/
theorem unread?_arrive (w : World H) (g g' : Nat) (i : Inbound) :
    (w.act (.arrive g' i)).unread? g =
      (w.unread? g).map (· ++ ((Act.arrive g' i : Act H).arrival? g).toList) := by
  show (w.updateLink g' fun l => l.arrive i).unread? g = _
  rw [unread?_updateLink, Act.arrival?]
  by_cases hg : g = g'
  · subst hg
    simp [unread?, Function.comp_def, Link.arrive]
  · have hne : ¬ g' = g := fun he => hg he.symm
    simp [hg, hne]

/-- What callers, the transport and the clock do reads nothing; what arrives is put at the end. -/
theorem unread?_outside (w : World H) {a : Act H} (hs : a ≠ .step) (hl : ∀ g, a ≠ .linkStep g)
    (g : Nat) :
    (w.act a).unread? g = (w.unread? g).map (· ++ (a.arrival? g).toList) ∧
      readsOn g (w.act a).history = readsOn g w.history := by
  cases a with
  | submit request handler => exact (w.sameReads_submit request handler g).append_nil
  | subscribe event handler => exact (w.sameReads_tryCommand _ handler g).append_nil
  | onDisconnect handler => exact (w.sameReads_tryCommand _ handler g).append_nil
  | onLogin handler => exact (w.sameReads_tryCommand _ handler g).append_nil
  | shutdown => exact SameReads.append_nil ⟨rfl, rfl⟩
  | clone => exact SameReads.append_nil ⟨rfl, rfl⟩
  | drop => exact SameReads.append_nil ⟨rfl, rfl⟩
  | elapse milliseconds => exact SameReads.append_nil ⟨rfl, rfl⟩
  | offer g' outcome =>
    have hsame := w.sameReads_updateLink g g' (f := fun l => l.offer outcome) fun _ => rfl
    exact hsame.append_nil
  | breakWrites g' reason =>
    have hsame := w.sameReads_updateLink g g' (f := fun l => l.breakWrites reason) fun _ => rfl
    exact hsame.append_nil
  | stall g' => exact (w.sameReads_updateLink g g' (f := Link.stall) fun _ => rfl).append_nil
  | resume g' => exact (w.sameReads_updateLink g g' (f := Link.resume) fun _ => rfl).append_nil
  | arrive g' i =>
    refine ⟨w.unread?_arrive g g' i, ?_⟩
    obtain ⟨links, -, hw⟩ := w.updateLink_eq g' fun l => l.arrive i
    show readsOn g (w.updateLink g' _).history = _
    rw [hw]
    rfl
  | step => exact absurd rfl hs
  | linkStep g' => exact absurd rfl (hl g')

/-! ### Steps of connections -/

/-- Of a step that reads something only this is recorded. -/
theorem filterMap_recordOf_read {l l' : SessionLink H} {t : Connection.Talk (Reply H) String}
    {now : Nat} {effects : List (Connection.Effect (Reply H) String)} {i : Inbound}
    (h : l.TalkStep t now l' effects) (hread : .read i ∈ effects) (g : Nat) :
    effects.filterMap (recordOf g) = [.read g i] := by
  cases h with
  | subscribed => simp at hread
  | wrote => simp at hread
  | givenUp => simp at hread
  | unwritable => simp at hread
  | expired => simp at hread
  | @read i' rest deliveries _ _ _ delivered =>
    have hnone : deliveries.filterMap (recordOf (H := H) g) = [] := by
      refine List.filterMap_eq_nil_iff.2 fun e he => ?_
      obtain ⟨_, _, _, rfl⟩ := delivered e he
      rfl
    rcases List.mem_cons.1 hread with hi | hmem
    · cases hi
      rw [List.filterMap_cons, hnone]
      rfl
    · obtain ⟨_, _, _, he⟩ := delivered _ hmem
      cases he
  | answered =>
    obtain rfl : i = .text _ := by simpa using hread
    rfl
  | failed =>
    obtain rfl : i = _ := by simpa using hread
    rw [List.filterMap_cons, List.filterMap_append, List.filterMap_map]
    simp [recordOf, Function.comp_def]

/-- Of what does not come of a frame only writing is recorded. -/
theorem eq_wrote_or_armed_of_recordOf {g : Nat} {e : Event H}
    {effect : Connection.Effect (Reply H) String} (heffect : effect.isOfFrame = false)
    (h : recordOf g effect = some e) : (∃ id q, e = .wrote g id q) ∨ ∃ id, e = .armed g id := by
  cases effect with
  | wrote id request reply => cases h; exact .inl ⟨id, ⟨request, reply⟩, rfl⟩
  | armed id => cases h; exact .inr ⟨id, rfl⟩
  | read => cases heffect
  | _ => cases h

theorem readsOn_filterMap_recordOf {effects : List (Connection.Effect (Reply H) String)}
    (h : ∀ e ∈ effects, e.isOfFrame = false) (g g' : Nat) :
    readsOn g (effects.filterMap (recordOf g')) = [] := by
  refine List.filterMap_eq_nil_iff.2 fun e he => ?_
  obtain ⟨effect, heffect, hrecord⟩ := List.mem_filterMap.1 he
  rcases eq_wrote_or_armed_of_recordOf (h effect heffect) hrecord with ⟨_, _, rfl⟩ | ⟨_, rfl⟩ <;>
    rfl

/-- A connection reads what arrived first, or it reads nothing. -/
theorem unread?_hear {g' : Nat} {l l' : SessionLink H}
    {effects : List (Connection.Effect (Reply H) String)} (hl : w.link? g' = some l)
    (hs : l.step? w.clock = some (l', effects)) (g : Nat) :
    ∃ is, w.unread? g = (((w.setLink g' l').hear g' effects).unread? g).map (is ++ ·) ∧
      readsOn g ((w.setLink g' l').hear g' effects).history = readsOn g w.history ++ is ∧
      (((w.setLink g' l').hear g' effects).unread? g = none → is = []) := by
  rw [unread?, unread?, link?_hear, link?_setLink, history_hear, readsOn_append]
  show ∃ is, _ ∧ readsOn g w.history ++ _ = _ ∧ _
  rcases Link.step?_read_or_not hs with ⟨t, i, rest, hp, hc, -, hu, heq⟩ | ⟨hu, hframe⟩
  · obtain ⟨hl', heffects⟩ := Prod.mk.inj heq
    have hread : .read i ∈ effects := by
      rw [heffects]
      exact List.mem_cons_self
    rw [filterMap_recordOf_read (Link.talkStep_of_step? hp hc hs) hread]
    by_cases hg : g = g'
    · subst hg
      rw [if_pos rfl, hl, hl']
      exact ⟨[i], congrArg some hu, by simp [readsOn, Event.readOn?], fun h => by cases h⟩
    · refine ⟨[], ?_, ?_, fun _ => rfl⟩
      · rw [if_neg hg]
        simp [Function.comp_def]
      · have hne : ¬ g' = g := fun he => hg he.symm
        simp [readsOn, Event.readOn?, hne]
  · refine ⟨[], ?_, by rw [readsOn_filterMap_recordOf hframe], fun _ => rfl⟩
    by_cases hg : g = g'
    · subst hg
      rw [if_pos rfl, hl]
      simp [hu]
    · rw [if_neg hg]
      simp [Function.comp_def]

/-! ### Every run -/

/-- What was read and what is unread on a connection is what has arrived last, of all that `came`
for it. What arrived before the connection was made is not read. -/
structure Arrived (w : World H) (g : Nat) (came : List Inbound) : Prop where
  unmade : w.unread? g = none → readsOn g w.history = []
  made : ∀ unread, w.unread? g = some unread → readsOn g w.history ++ unread <:+ came

namespace Arrived

variable {g : Nat} {came : List Inbound}

/-- A connection that is made now has nothing to read. -/
theorem of_step (h : w.Arrived g came) (hreads : readsOn g w'.history = readsOn g w.history)
    (hunread : w'.unread? g = w.unread? g ∨ w.unread? g = none ∧ w'.unread? g = some []) :
    w'.Arrived g came := by
  rcases hunread with hsame | ⟨hnone, hnew⟩
  · exact ⟨fun hn => hreads.trans (h.unmade (hsame ▸ hn)), fun unread hu => by
      rw [hreads]
      exact h.made unread (hsame ▸ hu)⟩
  · refine ⟨fun hn => ?_, fun unread hu => ?_⟩
    · rw [hnew] at hn
      cases hn
    · obtain rfl := Option.some.inj (hnew.symm.trans hu)
      rw [hreads, h.unmade hnone]
      exact came.nil_suffix

/-- What is read now was the first of what was unread. -/
theorem of_read (h : w.Arrived g came) {is : List Inbound}
    (hunread : w.unread? g = (w'.unread? g).map (is ++ ·))
    (hreads : readsOn g w'.history = readsOn g w.history ++ is)
    (hmade : w'.unread? g = none → is = []) : w'.Arrived g came := by
  refine ⟨fun hn => ?_, fun unread hu => ?_⟩
  · rw [hreads, hmade hn, h.unmade (by rw [hunread, hn]; rfl)]
    rfl
  · rw [hreads, List.append_assoc]
    exact h.made _ (by rw [hunread, hu]; rfl)

theorem of_arrive (h : w.Arrived g came) {more : List Inbound}
    (hunread : w'.unread? g = (w.unread? g).map (· ++ more))
    (hreads : readsOn g w'.history = readsOn g w.history) : w'.Arrived g (came ++ more) := by
  refine ⟨fun hn => hreads.trans (h.unmade (by simpa [hunread] using hn)), fun unread hu => ?_⟩
  obtain ⟨before, hbefore, rfl⟩ := Option.map_eq_some_iff.1 (hunread.symm.trans hu)
  obtain ⟨earlier, hearlier⟩ := h.made before hbefore
  rw [hreads, ← hearlier]
  exact ⟨earlier, by simp only [List.append_assoc]⟩

end Arrived

theorem arrivals_append (g : Nat) (acts : List (Act H)) (a : Act H) :
    arrivals g (acts ++ [a]) = arrivals g acts ++ (a.arrival? g).toList := by
  rw [arrivals, List.filterMap_append]
  cases h : a.arrival? g <;> simp [arrivals, h]

/-- **What was read and what is unread is what has arrived last**, from when the connection was made
on, in the same order. -/
theorem arrived_run (setup : Setup H) (acts : List (Act H)) (g : Nat) :
    (run setup acts).Arrived g (arrivals g acts) := by
  induction acts using List.reverseRecOn with
  | nil => exact ⟨fun _ => rfl, fun _ h => by cases h⟩
  | append_singleton acts a ih =>
    rw [arrivals_append, run_concat]
    by_cases hs : a = .step
    · subst hs
      rw [show (Act.step : Act H).arrival? g = none from rfl, Option.toList_none, List.append_nil]
      cases h : (run setup acts).step? with
      | none =>
        show ((run setup acts).step?.getD _).Arrived g _
        rwa [h]
      | some w' =>
        have hstep := step_of_step? h
        obtain ⟨o, hturn, htook⟩ :=
          hstep.turn (generations_run setup acts) (exchange_run setup acts)
        show ((run setup acts).step?.getD _).Arrived g _
        rw [h]
        show w'.Arrived g _
        refine ih.of_step ?_ (unread?_step (generations_run setup acts) hstep g)
        rw [htook.history, readsOn_append, readsOn_of_isOwn hturn.isOwn, List.append_nil]
    · by_cases hl : ∃ g', a = .linkStep g'
      · obtain ⟨g', rfl⟩ := hl
        rw [show (Act.linkStep g' : Act H).arrival? g = none from rfl, Option.toList_none,
          List.append_nil]
        show (((run setup acts).linkStep? g').getD _).Arrived g _
        cases h : (run setup acts).linkStep? g' with
        | none => exact ih
        | some w' =>
          obtain ⟨l, l', effects, hlink, hlstep, rfl⟩ := linkStep?_eq_some h
          obtain ⟨is, hunread, hreads, hmade⟩ := unread?_hear hlink hlstep g
          exact ih.of_read hunread hreads hmade
      · obtain ⟨hunread, hreads⟩ := (run setup acts).unread?_outside hs (fun g' h => hl ⟨g', h⟩) g
        exact ih.of_arrive hunread hreads

end World

end PrintClient.Session
