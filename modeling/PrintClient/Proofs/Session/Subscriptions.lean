import Mathlib.Data.List.Induction
import PrintClient.Proofs.Session.Turns

/-!
# Handlers of events

The handlers of an event are those that were registered for its name, in the order of their
registration: first those of the setup, then those that callers have handed in and the session has
taken. Connections come and go without any effect on them.

* `handlersOf_subscribe`: what one more registration does;
* `registrations`: all registrations for a name;
* `Turn.handlersOf`: what a turn does to the handlers and to the registrations that wait;
* `handlersOf_run`: the handlers of an event in any run.
-/

namespace PrintClient.Session

variable {H : Type}

/-- The registration of a handler for a name. -/
def Command.registration? (name : String) : Command H → Option H
  | .subscribe event handler => if event = name then some handler else none
  | _ => none

/-- The handlers that were registered for a name, in this order. -/
def registrations (setup : Setup H) (acts : List (Act H)) (name : String) : List H :=
  (setup.subscriptions.filterMap fun p => if p.1 = name then some p.2 else none) ++
    (acts.filterMap Act.command?).filterMap (Command.registration? name)

/-! ### The handlers that a session keeps -/

theorem lookup_addHandler (event name : String) (handler : H)
    (subscriptions : List (String × List H)) :
    ((addHandler event handler subscriptions).lookup name).getD [] =
      (subscriptions.lookup name).getD [] ++ if event = name then [handler] else [] := by
  induction subscriptions with
  | nil =>
    by_cases hn : event = name
    · simp [addHandler, hn]
    · simp [addHandler, List.lookup_cons, beq_false_of_ne (Ne.symm hn), hn]
  | cons p rest ih =>
    obtain ⟨key, handlers⟩ := p
    by_cases hk : key = event
    · subst hk
      by_cases hn : key = name
      · simp [addHandler, hn]
      · simp [addHandler, List.lookup_cons, beq_false_of_ne (Ne.symm hn), hn]
    · by_cases hn : name = key
      · subst hn
        have hne : ¬ event = name := fun h => hk h.symm
        simp [addHandler, hk, hne]
      · rw [addHandler, if_neg hk, List.lookup_cons, List.lookup_cons, beq_false_of_ne hn]
        exact ih

/-- A registration adds its handler behind the others of the same name. -/
theorem handlersOf_subscribe (s : Session H) (event name : String) (handler : H) :
    (s.subscribe event handler).handlersOf name =
      s.handlersOf name ++ if event = name then [handler] else [] :=
  lookup_addHandler event name handler s.subscriptions

theorem handlersOf_foldl_subscribe (subscriptions : List (String × H)) (s : Session H)
    (name : String) :
    (subscriptions.foldl (fun s p => s.subscribe p.1 p.2) s).handlersOf name =
      s.handlersOf name ++
        subscriptions.filterMap fun p => if p.1 = name then some p.2 else none := by
  induction subscriptions generalizing s with
  | nil => simp
  | cons p rest ih =>
    rw [List.foldl_cons, ih, handlersOf_subscribe, List.filterMap_cons]
    split
    · simp
    · simp

theorem handlersOf_setup (setup : Setup H) (name : String) :
    setup.session.handlersOf name =
      setup.subscriptions.filterMap fun p => if p.1 = name then some p.2 else none := by
  have h := handlersOf_foldl_subscribe setup.subscriptions (new setup.endpoint setup.settings) name
  exact h

namespace World

variable {w w' : World H} {o : Outcome H}

/-- The registrations for a name that wait in the channel. -/
def waitingFor (name : String) (commands : List (Command H)) : List H :=
  commands.filterMap (Command.registration? name)

/-- One more act hands in at most one more registration, which is the last. -/
theorem registrations_append (setup : Setup H) (acts : List (Act H)) (a : Act H) (name : String) :
    registrations setup (acts ++ [a]) name =
      registrations setup acts name ++ waitingFor name a.command?.toList := by
  rw [registrations, List.filterMap_append, List.filterMap_append, ← List.append_assoc]
  congr 2

/-- A turn takes a registration out of the channel, or leaves all as it is. -/
theorem Turn.handlersOf (h : w.Turn o) (hs : o.stage ≠ .ended) (name : String) :
    o.session.handlersOf name ++ waitingFor name o.commands =
      w.session.handlersOf name ++ waitingFor name w.commands := by
  cases h with
  | register commands =>
    rw [commands, handlersOf_subscribe, waitingFor, waitingFor, List.filterMap_cons]
    simp only [Command.registration?]
    split
    · simp
    · simp
  | take commands => rw [commands]; rfl
  | onDisconnect commands => rw [commands]; rfl
  | onLogin commands => rw [commands]; rfl
  | stop => exact absurd rfl hs
  | _ => rfl

/-- **The handlers of an event are those that were registered for its name**, but for those that
wait in the channel. -/
theorem handlersOf_run (setup : Setup H) (acts : List (Act H))
    (h : (run setup acts).stage ≠ .ended) (name : String) :
    (run setup acts).session.handlersOf name ++ waitingFor name (run setup acts).commands =
      registrations setup acts name := by
  induction acts using List.reverseRecOn with
  | nil =>
    show setup.session.handlersOf name ++ [] = _
    rw [handlersOf_setup]
    rfl
  | append_singleton acts a ih =>
    have hbefore : (run setup acts).stage ≠ .ended := by
      intro he
      rw [run_concat] at h
      exact h (stage_act_of_ended he a)
    rw [registrations_append, ← ih hbefore]
    rw [run_concat] at h ⊢
    rcases act_cases_of_run setup acts a with haside | ⟨rfl, -, o, hturn, htook⟩
    · rw [haside.session, haside.commands hbefore, waitingFor, List.filterMap_append,
        ← List.append_assoc]
      rfl
    · rw [htook.session.handlersOf, htook.commands]
      rw [htook.stage] at h
      rw [hturn.handlersOf h]
      exact (List.append_nil _).symm

end World

end PrintClient.Session
