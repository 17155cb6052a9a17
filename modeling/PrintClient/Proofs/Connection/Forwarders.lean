import PrintClient.Proofs.Connection.Reading

/-!
# Handlers of events on a connection

The handler of an event reaches a connection through its inbox, and a later one of the same name
replaces an earlier one. Whom a connection will call once its inbox is empty is settled when the
handler is put there; until it is done with its work nothing that it does changes that.

* `forwarder?`: the handler of an event, once all commands in the inbox have been taken;
* `forwarder?_append`, `forwarder?_subscribe`: what its owner does to it;
* `forwarder?_step`: what the connection does leaves it as it is.
-/

namespace PrintClient

namespace Connection

variable {R E : Type}

/-- The handlers that a connection has taken up. -/
def handlers (c : Connection R E) : List (String × E) :=
  match c.phase with
  | .talking t => t.handlers
  | .writing t _ => t.handlers
  | _ => []

/-- What a command makes of the handler of an event. -/
def Command.retarget (event : String) (found : Option E) : Command R E → Option E
  | .subscribe name handler => if name = event then some handler else found
  | .send .. => found

/-- The handler of an event, once all commands in the inbox have been taken. -/
def forwarder? (c : Connection R E) (event : String) : Option E :=
  c.inbox.foldl (Command.retarget event) (c.handlers.lookup event)

/-! ### What the owner does -/

theorem forwarder?_append (c : Connection R E) (busy : Bool) (commands : List (Command R E))
    (event : String) :
    ({ c with busy, inbox := c.inbox ++ commands } : Connection R E).forwarder? event =
      commands.foldl (Command.retarget event) (c.forwarder? event) :=
  List.foldl_append

/-- The handler of an event replaces the one before. -/
theorem forwarder?_subscribe {c : Connection R E} (ho : ¬ c.IsOver) (name event : String)
    (handler : E) :
    (c.subscribe name handler).forwarder? event =
      if name = event then some handler else c.forwarder? event := by
  unfold subscribe
  split
  · rename_i hp
    exact absurd (.inr hp) ho
  · exact forwarder?_append c c.busy [.subscribe name handler] event

/-! ### What the connection does -/

theorem lookup_filter_ne {handlers : List (String × E)} {name event : String} (h : event ≠ name) :
    (handlers.filter fun p => p.1 ≠ name).lookup event = handlers.lookup event := by
  induction handlers with
  | nil => rfl
  | cons p rest ih =>
    by_cases hp : p.1 = name
    · have hne : event ≠ p.1 := fun he => h (he.trans hp)
      rw [List.filter_cons_of_neg (by simpa using hp), ih, List.lookup_cons, beq_false_of_ne hne]
    · rw [List.filter_cons_of_pos (by simpa using hp), List.lookup_cons, List.lookup_cons, ih]

/-- A handler that is taken up replaces the one before. -/
theorem lookup_replaced (handlers : List (String × E)) (name event : String) (handler : E) :
    ((name, handler) :: handlers.filter fun p => p.1 ≠ name).lookup event =
      if name = event then some handler else handlers.lookup event := by
  by_cases h : event = name
  · subst h
    simp
  · rw [List.lookup_cons, beq_false_of_ne h, if_neg fun he => h he.symm]
    exact lookup_filter_ne h

end Connection

namespace Link

open Connection

variable {R E : Type} {l l' : Link R E} {now : Nat} {effects : List (Effect R E)}

theorem TalkStep.forwarder?_eq {t : Talk R E} (hp : l.connection.phase = .talking t)
    (h : l.TalkStep t now l' effects) (ho : ¬ l'.connection.IsOver) (event : String) :
    l'.connection.forwarder? event = l.connection.forwarder? event := by
  have hhandlers : l.connection.handlers = t.handlers := by
    unfold handlers
    rw [hp]
  unfold forwarder?
  rw [hhandlers]
  cases h with
  | @subscribed name handler rest inbox =>
    rw [inbox, List.foldl_cons]
    show rest.foldl (Command.retarget event) (List.lookup event (_ :: _)) = _
    rw [lookup_replaced]
    rfl
  | wrote inbox => rw [inbox]; rfl
  | givenUp inbox =>
    rw [inbox]
    show List.foldl _ (l.connection.handlers.lookup event) _ = _
    rw [hhandlers]
    rfl
  | read inbox =>
    show List.foldl _ (l.connection.handlers.lookup event) _ = _
    rw [hhandlers]
  | answered inbox => rfl
  | expired inbox => rfl
  | unwritable => exact absurd (.inl rfl) ho
  | failed => exact absurd (.inl rfl) ho

/-- **What a connection does leaves its handlers as they are**, until it is done with its work. -/
theorem forwarder?_step (h : l.step? now = some (l', effects)) (ho : ¬ l'.connection.IsOver)
    (event : String) : l'.connection.forwarder? event = l.connection.forwarder? event := by
  cases hp : l.connection.phase with
  | idle => simp [step?, hp] at h
  | closing => exact absurd (step?_of_isOver (.inl hp) h).1 ho
  | ended => exact absurd (step?_of_isOver (.inr hp) h).1 ho
  | opening =>
    cases hc : l.connection.cancelled with
    | true =>
      simp only [step?, hp, hc, if_true, stop, Option.some.injEq] at h
      cases h
      exact absurd (.inr rfl) ho
    | false =>
      rcases step?_of_opening hp hc h with ⟨rfl, -⟩ | ⟨failure, -, rfl⟩
      · unfold forwarder? handlers
        rw [hp]
        rfl
      · exact absurd (.inl rfl) ho
  | talking t =>
    cases hc : l.connection.cancelled with
    | true =>
      simp only [step?, hp, hc, if_true, stop, Option.some.injEq] at h
      cases h
      exact absurd (.inl rfl) ho
    | false => exact (talkStep_of_step? hp hc h).forwarder?_eq hp ho event
  | writing t handler =>
    cases writeStep_of_step? hp h with
    | armed =>
      unfold forwarder? handlers
      rw [hp]
    | unwritable => exact absurd (.inl rfl) ho
    | brokenOff => exact absurd (.inl rfl) ho

end Link

end PrintClient
