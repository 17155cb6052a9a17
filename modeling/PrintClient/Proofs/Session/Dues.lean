import Mathlib.Data.List.Basic
import Mathlib.Data.List.Induction
import PrintClient.Proofs.Session.Arrivals
import PrintClient.Proofs.Session.Attribution
import PrintClient.Proofs.Session.Forwarding

/-!
# What frames give cause for

A frame that is read on a connection gives cause for calls: an event for those of its handlers, if
there were any, and a response for that of the request that awaited it. What is due on behalf of a
connection and what is called are both read from the annals of a run, in which each event stands
with the world that it happened in.

* `World.annals`: all that happens from a world on;
* `Session.due`, `duesFor`: what frames give cause for;
* `callsFor`: the calls that are made while a connection is held;
* `Serves`, `Served`: how calls serve what is due, from the first on;
* `causes_receive`: what a connection tells its session of a frame is what that gives cause for.
-/

namespace PrintClient

/-- The meaning of what arrived, if it is a frame that is well formed. -/
def Inbound.frame? : Inbound → Option Frame
  | .text content => (Frame.parse content).toOption
  | _ => none

namespace Session

variable {H : Type}

/-! ### Causes and calls -/

/-- What calls of handlers are due for: an event, with the handlers that it had when it was read, or
the response to the request on its way. -/
inductive Due (H : Type) where
  | event (e : PushEvent) (handlers : List H)
  | answer (data : Json)
  deriving DecidableEq

/-- The notice of something due. -/
def Due.notice : Due H → Notice
  | .event e _ => .event e
  | .answer data => .completed data

/-- Whether handlers are called because of a notice. -/
def Notice.isCause : Notice → Bool
  | .completed _ | .event _ => true
  | .handshaked | .failed _ => false

/-- The notices of a connection because of which handlers are called. -/
def causes (g : Nat) (notices : List (Nat × Notice)) : List Notice :=
  notices.filterMap fun p => if p.1 = g ∧ p.2.isCause = true then some p.2 else none

/-- Whether the handler of an event, of a response or of the login is called. -/
def Event.isCall : Event H → Bool
  | .notified .. | .replied .. | .loggedIn _ => true
  | _ => false

/-- What a frame gives cause for, `pending` being the number of the request that awaits its response
on the connection. -/
def due (s : Session H) (pending : Option Nat) : Frame → List (Due H)
  | .response id data => if pending = some id then [.answer data] else []
  | .events batch => batch.filterMap fun e =>
      if (s.handlersOf e.name).isEmpty then none else some (.event e (s.handlersOf e.name))
  | .ignored => []

/-- How calls serve something due, `registered` being all handlers of an event: the handlers that it
had when it was read are called, and perhaps some that were registered later, each once and in the
order of their registration. -/
inductive Serves (registered : String → List H) : Due H → List (Event H) → Prop
  | event (e : PushEvent) (handlers called : List H) (known : handlers <+: called)
      (order : called <+: registered e.name) :
      Serves registered (.event e handlers) (called.map fun h => .notified h e)
  | reply (data : Json) (handler : H) : Serves registered (.answer data) [.replied handler data]
  | login (data : Json) (handlers : List H) (ok : data.member? "ok" = some (.bool true)) :
      Serves registered (.answer data) (handlers.map .loggedIn)

/-- The first of what is due are served by the calls, one after the other; `rest` is left. -/
inductive Served (registered : String → List H) :
    List (Due H) → List (Event H) → List (Due H) → Prop
  | none (rest : List (Due H)) : Served registered rest [] rest
  | cons {d : Due H} {calls more : List (Event H)} {dues rest : List (Due H)}
      (first : Serves registered d calls) (later : Served registered dues more rest) :
      Served registered (d :: dues) (calls ++ more) rest

namespace Served

variable {registered registered' : String → List H} {dues rest : List (Due H)}
  {calls : List (Event H)}

/-- More is due. -/
theorem append (h : Served registered dues calls rest) (more : List (Due H)) :
    Served registered (dues ++ more) calls (rest ++ more) := by
  induction h with
  | none rest => exact .none (rest ++ more)
  | cons first _ ih => exact .cons first ih

/-- The first of what is left is served. -/
theorem serve {d : Due H} {es : List (Event H)} (h : Served registered dues calls (d :: rest))
    (hes : Serves registered d es) : Served registered dues (calls ++ es) rest := by
  generalize hleft : d :: rest = left at h
  induction h with
  | none =>
    subst hleft
    have hone := Served.cons hes (.none rest)
    rwa [List.append_nil] at hone
  | cons first _ ih =>
    rw [List.append_assoc]
    exact .cons first (ih hleft)

/-- More handlers are registered. -/
theorem mono (h : Served registered dues calls rest)
    (hmore : ∀ name, registered name <+: registered' name) :
    Served registered' dues calls rest := by
  induction h with
  | none rest => exact .none rest
  | cons first _ ih =>
    refine .cons ?_ ih
    cases first with
    | event e handlers called known order =>
      exact .event e handlers called known (order.trans (hmore e.name))
    | reply data handler => exact .reply data handler
    | login data handlers ok => exact .login data handlers ok

end Served

theorem isCall_teardown (s : Session H) (failure : Failure) :
    ∀ e ∈ s.teardown failure, e.isCall = false := by
  simp only [teardown, hangUp, List.forall_mem_append, List.forall_mem_cons, List.forall_mem_map]
  exact ⟨fun _ _ => rfl, ⟨rfl, fun _ _ => rfl⟩, by simp [Event.isCall]⟩

theorem isCall_farewell (s : Session H) (commands : List (Command H)) :
    ∀ e ∈ s.farewell commands, e.isCall = false := by
  simp only [farewell, List.forall_mem_append, List.forall_mem_cons, List.forall_mem_map]
  exact ⟨⟨fun _ _ => rfl, fun _ _ => rfl⟩, rfl, fun _ _ => rfl⟩

/-! ### What a connection tells its session of a frame -/

theorem causes_append (g : Nat) (notices more : List (Nat × Notice)) :
    causes g (notices ++ more) = causes g notices ++ causes g more :=
  List.filterMap_append

theorem causes_cons_of_not {g g' : Nat} {notice : Notice} {rest : List (Nat × Notice)}
    (h : ¬ (g' = g ∧ notice.isCause = true)) : causes g ((g', notice) :: rest) = causes g rest := by
  rw [causes, List.filterMap_cons, if_neg h]
  rfl

/-- The notices of a connection are its own. -/
theorem causes_map (g g' : Nat) (notices : List Notice) :
    causes g (notices.map fun n => (g', n)) =
      if g' = g then notices.filter Notice.isCause else [] := by
  rw [causes, List.filterMap_map]
  split
  · rename_i hg
    rw [← List.filterMap_eq_filter]
    refine List.filterMap_congr fun n _ => ?_
    simp [hg, Option.guard]
  · rename_i hg
    exact List.filterMap_eq_nil_iff.2 fun n _ => by simp [hg]

/-- Handlers are called only because of what the transport brought. -/
theorem isCause_of_noticeOf {effect : Connection.Effect (Reply H) String} {notice : Notice}
    (h : World.noticeOf effect = some notice) : notice.isCause = effect.isOfFrame := by
  cases effect with
  | opened => cases h; rfl
  | answered => cases h; rfl
  | delivered => cases h; rfl
  | failed => cases h; rfl
  | _ => cases h

section Receive

variable {s : Session H} {c : Connection (Reply H) String} {t : Connection.Talk (Reply H) String}

/-- An event is told to the session when the session has a handler for it. -/
theorem notices_of_batch (hf : ∀ event, t.handlers.lookup event = s.forward? event)
    (pending : Option Nat) (batch : List PushEvent) :
    (batch.filterMap t.delivery?).filterMap World.noticeOf =
      (s.due pending (.events batch)).map Due.notice := by
  rw [due, List.filterMap_filterMap, List.map_filterMap]
  refine List.filterMap_congr fun e _ => ?_
  rw [Connection.Talk.delivery?, hf, forward?]
  split
  · rfl
  · rfl

theorem isCause_of_mem_due {pending : Option Nat} {frame : Frame} :
    ∀ n ∈ (s.due pending frame).map Due.notice, n.isCause = true := by
  rw [List.forall_mem_map]
  intro d _
  cases d <;> rfl

/-- The handlers of an event are those that it has when it is read. -/
theorem handlers_of_mem_due {pending : Option Nat} {frame : Frame} {e : PushEvent}
    {known : List H} (h : .event e known ∈ s.due pending frame) : known = s.handlersOf e.name := by
  cases frame with
  | ignored => cases h
  | response id data =>
    simp only [due] at h
    split at h
    · simp at h
    · cases h
  | events batch =>
    obtain ⟨e', -, he⟩ := List.mem_filterMap.1 h
    split at he
    · cases he
    · cases he
      rfl

/-- **What a connection tells its session of what it reads is what that gives cause for**, as long
as it forwards the events that the session has a handler for. -/
theorem causes_receive (hp : c.phase = .talking t)
    (hf : ∀ event, t.handlers.lookup event = s.forward? event) (i : Inbound) :
    ((c.receive t i).2.filterMap World.noticeOf).filter Notice.isCause =
      ((i.frame?.map (s.due (t.pending.map Connection.Pending.callbackId))).getD []).map
        Due.notice := by
  have hfail : ∀ failure, ((c.fail failure).2.filterMap World.noticeOf).filter Notice.isCause =
      [] := by
    intro failure
    rw [Link.fail_of_talking hp, List.filterMap_append, List.filterMap_map]
    simp [World.noticeOf, Notice.isCause, Function.comp_def]
  cases i with
  | text content =>
    cases hframe : Frame.parse content with
    | error violation =>
      simp only [Connection.receive, Inbound.frame?, hframe, hfail]
      rfl
    | ok frame =>
      simp only [Inbound.frame?, hframe]
      show _ = (s.due _ frame).map Due.notice
      cases frame with
      | ignored => rw [Connection.receive_of_ignored hframe]; rfl
      | events batch =>
        rw [Connection.receive_of_events hframe, notices_of_batch hf]
        exact List.filter_eq_self.2 isCause_of_mem_due
      | response id data =>
        rw [Connection.receive_of_response hframe]
        rcases Connection.resolve_eq c t id data with ⟨p, hpend, hid, hr⟩ | ⟨hno, hr⟩ <;> rw [hr]
        · simp [due, hpend, hid, World.noticeOf, Notice.isCause, Due.notice]
        · have hother : t.pending.map Connection.Pending.callbackId ≠ some id := by
            intro heq
            obtain ⟨p, hp, hid⟩ := Option.map_eq_some_iff.1 heq
            exact hno p hp hid
          rw [due, if_neg hother]
          rfl
  | binary => rfl
  | control => rfl
  | close payload => exact hfail _
  | broken reason => exact hfail _
  | ended => exact hfail _

end Receive

/-! ### Annals -/

namespace World

/-- What an event gives cause for on a connection. -/
def duesOf (w : World H) (g : Nat) : Event H → List (Due H)
  | .read g' i =>
    if g' = g then
      (i.frame?.map (w.session.due ((w.pending? g).map Connection.Pending.callbackId))).getD []
    else []
  | _ => []

/-- The call of a handler while a connection is held. -/
def callOn? (w : World H) (g : Nat) (e : Event H) : Option (Event H) :=
  if w.session.held = some g ∧ e.isCall = true then some e else none

/-- All that happens from a world on, each event with the world that it happened in. -/
def annals (w : World H) : List (Act H) → List (World H × Event H)
  | [] => []
  | a :: acts =>
    ((w.act a).history.drop w.history.length).map (fun e => (w, e)) ++ (w.act a).annals acts

/-- All that happens in a run, each event with the world that it happened in. -/
abbrev runAnnals (setup : Setup H) (acts : List (Act H)) : List (World H × Event H) :=
  (start setup.session).annals acts

/-- What the frames that are read on a connection give cause for, in this order. -/
def duesFor (setup : Setup H) (acts : List (Act H)) (g : Nat) : List (Due H) :=
  (runAnnals setup acts).flatMap fun p => p.1.duesOf g p.2

/-- The calls that are made while a connection is held, in this order. -/
def callsFor (setup : Setup H) (acts : List (Act H)) (g : Nat) : List (Event H) :=
  (runAnnals setup acts).filterMap fun p => p.1.callOn? g p.2

/-- The handlers of an event are those that it has when it is read. -/
theorem handlers_of_mem_duesOf {w : World H} {g : Nat} {event : Event H} {e : PushEvent}
    {known : List H} (h : .event e known ∈ w.duesOf g event) :
    known = w.session.handlersOf e.name := by
  cases event with
  | read g' i =>
    rw [duesOf] at h
    split at h
    · cases hframe : i.frame? with
      | none => simp [hframe] at h
      | some frame => exact handlers_of_mem_due (by simpa [hframe] using h)
    · cases h
  | _ => cases h

/-- The session reads nothing itself. -/
theorem duesOf_of_isOwn (w : World H) (g : Nat) {e : Event H} (h : e.isOwn = true) :
    w.duesOf g e = [] := by
  cases e with
  | read => cases h
  | _ => rfl

section CallOn

variable {w : World H} {g : Nat} {es : List (Event H)}

theorem filterMap_callOn?_of_not_held (h : w.session.held ≠ some g) :
    es.filterMap (w.callOn? g) = [] :=
  List.filterMap_eq_nil_iff.2 fun _ _ => if_neg fun hcall => h hcall.1

theorem filterMap_callOn?_of_no_call (h : ∀ e ∈ es, e.isCall = false) :
    es.filterMap (w.callOn? g) = [] := by
  refine List.filterMap_eq_nil_iff.2 fun e he => if_neg fun hcall => ?_
  rw [h e he] at hcall
  cases hcall.2

theorem filterMap_callOn?_of_calls (hheld : w.session.held = some g)
    (h : ∀ e ∈ es, e.isCall = true) : es.filterMap (w.callOn? g) = es := by
  refine (List.filterMap_congr fun e he => ?_).trans List.filterMap_some
  exact if_pos ⟨hheld, h e he⟩

end CallOn

theorem annals_append (w : World H) (acts more : List (Act H)) :
    w.annals (acts ++ more) = w.annals acts ++ (w.all acts).annals more := by
  induction acts generalizing w with
  | nil => rfl
  | cons a acts ih =>
    rw [List.cons_append, annals, annals, ih, List.append_assoc]
    rfl

section Concat

variable {setup : Setup H} {acts : List (Act H)} {a : Act H} {es : List (Event H)}
  (h : ((run setup acts).act a).history = (run setup acts).history ++ es)

include h

theorem runAnnals_concat :
    runAnnals setup (acts ++ [a]) =
      runAnnals setup acts ++ es.map fun e => (run setup acts, e) := by
  rw [runAnnals, annals_append]
  show _ ++ (List.map _ (((run setup acts).act a).history.drop (run setup acts).history.length) ++
    []) = _
  rw [h, List.append_nil, List.drop_left]
  rfl

theorem duesFor_concat (g : Nat) :
    duesFor setup (acts ++ [a]) g =
      duesFor setup acts g ++ es.flatMap ((run setup acts).duesOf g) := by
  rw [duesFor, runAnnals_concat h, List.flatMap_append, List.flatMap_map]
  rfl

theorem callsFor_concat (g : Nat) : callsFor setup (acts ++ [a]) g =
    callsFor setup acts g ++ es.filterMap ((run setup acts).callOn? g) := by
  rw [callsFor, runAnnals_concat h, List.filterMap_append, List.filterMap_map]
  rfl

end Concat

/-- A step of the session gives cause for nothing new. -/
theorem duesFor_step (setup : Setup H) (acts : List (Act H)) (g : Nat) :
    duesFor setup (acts ++ [.step]) g = duesFor setup acts g := by
  have hes : ∃ es : List (Event H),
      ((run setup acts).act .step).history = (run setup acts).history ++ es ∧
        ∀ e ∈ es, e.isOwn = true := by
    show ∃ es, ((run setup acts).step?.getD (run setup acts)).history = _ ∧ _
    cases h : (run setup acts).step? with
    | none => exact ⟨[], (List.append_nil _).symm, by simp⟩
    | some w' =>
      obtain ⟨o, hturn, htook⟩ :=
        (step_of_step? h).turn (generations_run setup acts) (exchange_run setup acts)
      exact ⟨o.events, htook.history, hturn.isOwn⟩
  obtain ⟨es, hes, hown⟩ := hes
  rw [duesFor_concat hes,
    List.flatMap_eq_nil_iff.2 fun e he => duesOf_of_isOwn _ g (hown e he), List.append_nil]

/-- The annals of a run hold all that is recorded. -/
theorem history_eq_annals (setup : Setup H) (acts : List (Act H)) :
    (run setup acts).history = (runAnnals setup acts).map Prod.snd := by
  induction acts using List.reverseRecOn with
  | nil => rfl
  | append_singleton acts a ih =>
    have hmore : ∃ es, ((run setup acts).act a).history = (run setup acts).history ++ es := by
      rcases act_cases_of_run setup acts a with haside | ⟨-, -, o, -, htook⟩
      · obtain ⟨es, -, hes⟩ := haside.history
        exact ⟨es, hes⟩
      · exact ⟨o.events, htook.history⟩
    obtain ⟨es, hes⟩ := hmore
    rw [run_concat, hes, runAnnals_concat hes, List.map_append, ← ih, List.map_map]
    congr 1
    exact (List.map_id' es).symm

end World

end Session

end PrintClient
