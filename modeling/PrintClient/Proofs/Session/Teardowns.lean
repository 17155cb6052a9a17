import PrintClient.Proofs.Session.Turns

/-!
# Teardowns

A session that goes on without its connection has torn it down, and this is told in one piece: the
callers hear of the failure, and the next attempt is put off. Nothing else does either of the two.

* `World.TearsDown`: what a teardown does;
* `tearsDown_of_givesUp`: a session that gives its connection up tears it down, unless it ends;
* `tearsDown_of_mem`: what is recorded of a teardown is recorded of nothing else.
-/

namespace PrintClient.Session

variable {H : Type}

/-- Whether an event tells of a teardown. -/
def Event.tellsTeardown : Event H → Bool
  | .putOff _ | .disconnected .. => true
  | _ => false

namespace World

/-- The connection of generation `g` is given up because of a failure, and the session goes on. -/
structure TearsDown (w w' : World H) (g : Nat) (failure : Failure) : Prop where
  held : w.session.held = some g
  session : SameCourse (w.session.tornDown w.clock) w'.session
  trace : w'.trace = w.trace ++ (w.session.teardown failure).map fun e => (w.clock, e)
  stage : w'.stage = .running

variable {w w' : World H} {o : Outcome H} {g : Nat}

theorem TearsDown.history {failure : Failure} (h : w.TearsDown w' g failure) :
    w'.history = w.history ++ w.session.teardown failure :=
  history_of_trace h.trace

theorem Turn.tearsDown_of_givesUp (h : w.Turn o) (htook : w.Took w' o)
    (hheld : w.session.held = some g) (hne : o.session.held ≠ some g) :
    w'.stage = .ended ∨ ∃ failure, w.TearsDown w' g failure := by
  cases h with
  | attempt held => rw [hheld] at held; cases held
  | stop => exact .inl htook.stage
  | tearDown => exact .inr ⟨_, hheld, htook.session, htook.trace, htook.stage⟩
  | take => exact absurd hheld hne
  | register => exact absurd hheld hne
  | onDisconnect => exact absurd hheld hne
  | onLogin => exact absurd hheld hne
  | greet => exact absurd hheld hne
  | accept => exact absurd hheld hne
  | reply => exact absurd hheld hne
  | deliver => exact absurd hheld hne
  | skip => exact absurd hheld hne

theorem Turn.tearsDown_of_mem (h : w.Turn o) (htook : w.Took w' o) {e : Event H}
    (he : e ∈ o.events) (htells : e.tellsTeardown = true) :
    ∃ g failure, w.TearsDown w' g failure := by
  cases h with
  | tearDown held => exact ⟨_, _, held, htook.session, htook.trace, htook.stage⟩
  | attempt =>
    simp only [List.mem_cons, List.not_mem_nil, or_false] at he
    rcases he with rfl | rfl <;> cases htells
  | stop =>
    simp only [farewell, List.mem_append, List.mem_cons, List.mem_map] at he
    rcases he with ⟨_, -, rfl⟩ | rfl | ⟨_, -, rfl⟩ <;> cases htells
  | take => obtain rfl := List.mem_singleton.1 he; cases htells
  | register => cases he
  | onDisconnect => cases he
  | onLogin => cases he
  | greet => obtain rfl := List.mem_singleton.1 he; cases htells
  | accept =>
    rcases List.mem_cons.1 he with rfl | he
    · cases htells
    · obtain ⟨_, -, rfl⟩ := List.mem_map.1 he
      cases htells
  | reply => obtain rfl := List.mem_singleton.1 he; cases htells
  | deliver => obtain ⟨_, -, rfl⟩ := List.mem_map.1 he; cases htells
  | skip => cases he

section Runs

variable (setup : Setup H) (acts : List (Act H)) {a : Act H}

/-- **A session that gives its connection up tears it down, unless it ends.** -/
theorem tearsDown_of_givesUp (hheld : (run setup acts).session.held = some g)
    (hne : ((run setup acts).act a).session.held ≠ some g) :
    ((run setup acts).act a).stage = .ended ∨
      ∃ failure, (run setup acts).TearsDown ((run setup acts).act a) g failure := by
  rcases act_cases_of_run setup acts a with haside | ⟨-, -, o, hturn, htook⟩
  · rw [haside.session] at hne
    exact absurd hheld hne
  · rw [htook.session.held] at hne
    exact hturn.tearsDown_of_givesUp htook hheld hne

/-- **What is recorded of a teardown is recorded of nothing else.** -/
theorem tearsDown_of_mem {e : Event H}
    (he : e ∈ ((run setup acts).act a).history.drop (run setup acts).history.length)
    (htells : e.tellsTeardown = true) :
    ∃ g failure, (run setup acts).TearsDown ((run setup acts).act a) g failure := by
  rcases act_cases_of_run setup acts a with haside | ⟨-, -, o, hturn, htook⟩
  · obtain ⟨es, hes, hh⟩ := haside.history
    rw [hh, List.drop_left] at he
    have hown := hes e he
    cases e <;> cases hown <;> cases htells
  · rw [htook.history, List.drop_left] at he
    exact hturn.tearsDown_of_mem htook he htells

end Runs

end World

end PrintClient.Session
