import PrintClient.Proofs.Connection.Steps
import PrintClient.Session.World

/-!
# What happened in the world of a session

The record of a world without its times is a list of events. It is read here in several ways, each
of them a list that only grows:

* `submitted`, `taken`, `endings`, `finished`: the way of callers' requests through the session. The
  finished ones are the first of those taken, as many as have come to an end;
* `writesOn`, `responsesOn`: the requests written and the responses read on one connection;
* `callerWrites`: the callers' requests written on any connection;
* `LastWrite`, `Awaited`, `Answered`: where the last request on a connection stands;
* `LoggedIn`: the server has accepted the login on a connection;
* `Throughout`: every event of a list meets a condition on what happened before it.
-/

namespace PrintClient

namespace Session

variable {H : Type}

/-- What happened so far, without its times. -/
def World.history (w : World H) : List (Event H) := w.trace.map Prod.snd

/-- The requests of callers in a queue. -/
def callerEntries (queue : List (Queued H)) : List (Queued H) := queue.filter fun q => !q.isLogin

namespace Event

/-- The request that a caller submitted. -/
def submission? : Event H → Option (Queued H)
  | .accepted request handler => some ⟨request, .caller handler⟩
  | _ => none

/-- The request that was taken into the queue. -/
def taken? : Event H → Option (Queued H)
  | .taken request handler => some ⟨request, .caller handler⟩
  | _ => none

/-- The handler whose request came to its end: it was called, or given up. -/
def ending? : Event H → Option H
  | .replied handler _ => some handler
  | .lost handler => some handler
  | _ => none

/-- The request that was written on a connection, with its number. -/
def writeOn? (g : Nat) : Event H → Option (Nat × Queued H)
  | .wrote g' id q => if g' = g then some (id, q) else none
  | _ => none

/-- The caller's request that was written on any connection. -/
def callerWrite? : Event H → Option (Queued H)
  | .wrote _ _ q => if q.isLogin then none else some q
  | _ => none

/-- The response that was read on a connection, with its number. -/
def responseOn? (g : Nat) : Event H → Option (Nat × Json)
  | .read g' (.text frame) => if g' = g then Frame.response? frame else none
  | _ => none

/-- An event that ends no request and that is not about a connection's frames. -/
@[simp] def IsQuiet : Event H → Prop
  | .wrote .. | .read .. | .replied .. | .lost _ => False
  | _ => True

end Event

/-- The requests that callers submitted. -/
def submitted (l : List (Event H)) : List (Queued H) := l.filterMap Event.submission?

/-- The requests of callers that the session took. -/
def taken (l : List (Event H)) : List (Queued H) := l.filterMap Event.taken?

/-- The handlers whose requests came to their end, in that order. -/
def endings (l : List (Event H)) : List H := l.filterMap Event.ending?

/-- The requests of callers that came to their end. -/
def finished (l : List (Event H)) : List (Queued H) := (taken l).take (endings l).length

/-- The requests written on a connection, with their numbers. -/
def writesOn (g : Nat) (l : List (Event H)) : List (Nat × Queued H) :=
  l.filterMap (Event.writeOn? g)

/-- The requests of callers written on any connection. -/
def callerWrites (l : List (Event H)) : List (Queued H) := l.filterMap Event.callerWrite?

/-- The responses read on a connection, with their numbers. -/
def responsesOn (g : Nat) (l : List (Event H)) : List (Nat × Json) :=
  l.filterMap (Event.responseOn? g)

/-! ### Lists that grow -/

@[simp] theorem submitted_append (l m : List (Event H)) :
    submitted (l ++ m) = submitted l ++ submitted m :=
  List.filterMap_append

@[simp] theorem taken_append (l m : List (Event H)) : taken (l ++ m) = taken l ++ taken m :=
  List.filterMap_append

@[simp] theorem endings_append (l m : List (Event H)) : endings (l ++ m) = endings l ++ endings m :=
  List.filterMap_append

@[simp] theorem writesOn_append (g : Nat) (l m : List (Event H)) :
    writesOn g (l ++ m) = writesOn g l ++ writesOn g m :=
  List.filterMap_append

@[simp] theorem callerWrites_append (l m : List (Event H)) :
    callerWrites (l ++ m) = callerWrites l ++ callerWrites m :=
  List.filterMap_append

@[simp] theorem responsesOn_append (g : Nat) (l m : List (Event H)) :
    responsesOn g (l ++ m) = responsesOn g l ++ responsesOn g m :=
  List.filterMap_append

theorem Event.IsQuiet.nothing {e : Event H} (h : e.IsQuiet) :
    e.ending? = none ∧ (∀ g, e.writeOn? g = none) ∧ e.callerWrite? = none ∧
    ∀ g, e.responseOn? g = none := by
  cases e <;> simp_all [Event.IsQuiet, ending?, writeOn?, callerWrite?, responseOn?]

section Quiet

variable {es : List (Event H)}

theorem endings_of_quiet (h : ∀ e ∈ es, e.IsQuiet) : endings es = [] :=
  List.filterMap_eq_nil_iff.2 fun e he => (h e he).nothing.1

theorem writesOn_of_quiet (h : ∀ e ∈ es, e.IsQuiet) (g : Nat) : writesOn g es = [] :=
  List.filterMap_eq_nil_iff.2 fun e he => (h e he).nothing.2.1 g

theorem callerWrites_of_quiet (h : ∀ e ∈ es, e.IsQuiet) : callerWrites es = [] :=
  List.filterMap_eq_nil_iff.2 fun e he => (h e he).nothing.2.2.1

theorem responsesOn_of_quiet (h : ∀ e ∈ es, e.IsQuiet) (g : Nat) : responsesOn g es = [] :=
  List.filterMap_eq_nil_iff.2 fun e he => (h e he).nothing.2.2.2 g

end Quiet

section Lost

theorem filterMap_map_lost {α : Type} {f : Event H → Option α} (hf : ∀ h, f (.lost h) = none)
    (handlers : List H) : (handlers.map .lost).filterMap f = [] := by
  refine List.filterMap_eq_nil_iff.2 fun e he => ?_
  obtain ⟨h, -, rfl⟩ := List.mem_map.1 he
  exact hf h

variable (handlers : List H)

theorem taken_map_lost : taken (handlers.map .lost) = [] :=
  filterMap_map_lost (fun _ => rfl) handlers

theorem writesOn_map_lost (g : Nat) : writesOn g (handlers.map .lost) = [] :=
  filterMap_map_lost (fun _ => rfl) handlers

theorem callerWrites_map_lost : callerWrites (handlers.map .lost) = [] :=
  filterMap_map_lost (fun _ => rfl) handlers

theorem endings_map_lost : endings (handlers.map .lost) = handlers := by
  induction handlers with
  | nil => rfl
  | cons h handlers ih => simpa [endings, Event.ending?] using ih

end Lost

/-- While no more requests end than were taken, taking more does not change which ones ended. -/
theorem finished_append {l m : List (Event H)} (hle : (endings l).length ≤ (taken l).length)
    (hm : endings m = []) : finished (l ++ m) = finished l := by
  rw [finished, finished, taken_append, endings_append, hm, List.append_nil,
    List.take_append_of_le_length hle]

theorem finished_append_of_nil {l m : List (Event H)} (ht : taken m = []) (he : endings m = []) :
    finished (l ++ m) = finished l := by
  rw [finished, finished, taken_append, endings_append, ht, he, List.append_nil, List.append_nil]

/-! ### Where the last request on a connection stands -/

/-- The last request written on a connection is `q`, under the number `id`. Since then `later` has
happened, and no request came to its end. -/
structure LastWrite (l : List (Event H)) (g id : Nat) (q : Queued H) (later : List (Event H)) :
    Prop where
  split : ∃ earlier, l = earlier ++ .wrote g id q :: later
  writes : writesOn g later = []
  endings : endings later = []

/-- The last request written on a connection has had no response since. -/
def Awaited (l : List (Event H)) (g id : Nat) (q : Queued H) : Prop :=
  ∃ later, LastWrite l g id q later ∧ (responsesOn g later).lookup id = none

/-- The first response since to the last request written on a connection brought `data`. -/
def Answered (l : List (Event H)) (g id : Nat) (q : Queued H) (data : Json) : Prop :=
  ∃ later, LastWrite l g id q later ∧ (responsesOn g later).lookup id = some data

theorem LastWrite.append {l : List (Event H)} {g id : Nat} {q : Queued H} {later m : List (Event H)}
    (h : LastWrite l g id q later) (hw : writesOn g m = []) (he : Session.endings m = []) :
    LastWrite (l ++ m) g id q (later ++ m) where
  split := by
    obtain ⟨earlier, rfl⟩ := h.split
    exact ⟨earlier, by simp⟩
  writes := by rw [writesOn_append, h.writes, hw, List.append_nil]
  endings := by rw [endings_append, h.endings, he, List.append_nil]

theorem awaited_wrote (l : List (Event H)) (g id : Nat) (q : Queued H) :
    Awaited (l ++ [.wrote g id q]) g id q :=
  ⟨[], ⟨⟨l, rfl⟩, rfl, rfl⟩, rfl⟩

theorem Awaited.append {l : List (Event H)} {g id : Nat} {q : Queued H} {m : List (Event H)}
    (h : Awaited l g id q) (hw : writesOn g m = []) (he : endings m = [])
    (hr : (responsesOn g m).lookup id = none) : Awaited (l ++ m) g id q := by
  obtain ⟨later, hl, hn⟩ := h
  refine ⟨later ++ m, hl.append hw he, ?_⟩
  rw [responsesOn_append, List.lookup_append, hn, hr]
  rfl

theorem Awaited.length_pos {l : List (Event H)} {g id : Nat} {q : Queued H} (h : Awaited l g id q) :
    0 < (writesOn g l).length := by
  obtain ⟨later, hl, -⟩ := h
  obtain ⟨earlier, rfl⟩ := hl.split
  refine List.length_pos_of_mem (a := (id, q)) (List.mem_filterMap.2 ⟨.wrote g id q, by simp, ?_⟩)
  exact if_pos rfl

/-- The response that comes first answers the request. -/
theorem Awaited.answered {l : List (Event H)} {g id : Nat} {q : Queued H} {data : Json}
    {m : List (Event H)} (h : Awaited l g id q) (hw : writesOn g m = []) (he : endings m = [])
    (hr : (responsesOn g m).lookup id = some data) : Answered (l ++ m) g id q data := by
  obtain ⟨later, hl, hn⟩ := h
  refine ⟨later ++ m, hl.append hw he, ?_⟩
  rw [responsesOn_append, List.lookup_append, hn, hr]
  rfl

theorem Answered.append {l : List (Event H)} {g id : Nat} {q : Queued H} {data : Json}
    {m : List (Event H)} (h : Answered l g id q data) (hw : writesOn g m = [])
    (he : endings m = []) :
    Answered (l ++ m) g id q data := by
  obtain ⟨later, hl, hs⟩ := h
  refine ⟨later ++ m, hl.append hw he, ?_⟩
  rw [responsesOn_append, List.lookup_append, hs]
  rfl

/-- The server has accepted the first request on a connection: the first response to it carries a
flag `ok` that is true. -/
def LoggedIn (l : List (Event H)) (g : Nat) : Prop :=
  ∃ earlier q later data, l = earlier ++ .wrote g 1 q :: later ∧
    (responsesOn g later).lookup 1 = some data ∧
    data.member? "ok" = some (.bool true)

theorem LoggedIn.append {l : List (Event H)} {g : Nat} (h : LoggedIn l g) (m : List (Event H)) :
    LoggedIn (l ++ m) g := by
  obtain ⟨earlier, q, later, data, rfl, hd, hok⟩ := h
  refine ⟨earlier, q, later ++ m, data, by simp, ?_, hok⟩
  rw [responsesOn_append, List.lookup_append, hd]
  rfl

/-- An accepted login is one that was answered with a flag `ok` that is true. -/
theorem checkOk_eq_ok {action : String} {data : Json} (h : checkOk action data = .ok ()) :
    data.member? "ok" = some (.bool true) := by
  unfold checkOk at h
  cases hm : data.member? "ok" with
  | none => rw [hm] at h; cases h
  | some v =>
    rw [hm] at h
    cases v with
    | bool b => cases b with
      | false => cases h
      | true => rfl
    | _ => cases h

theorem Answered.loggedIn {l : List (Event H)} {g : Nat} {q : Queued H} {data : Json}
    (h : Answered l g 1 q data) (hok : checkOk q.request.action data = .ok ()) : LoggedIn l g := by
  obtain ⟨later, hl, hs⟩ := h
  obtain ⟨earlier, heq⟩ := hl.split
  exact ⟨earlier, q, later, data, heq, hs, checkOk_eq_ok hok⟩

/-! ### Conditions on what happened before -/

/-- Every element of a list meets a condition on those before it. -/
def Throughout {α : Type} (P : List α → α → Prop) (l : List α) : Prop :=
  ∀ before e, before ++ [e] <+: l → P before e

section Throughout

variable {α : Type} {P : List α → α → Prop}

theorem throughout_nil : Throughout P [] := by
  intro before e h
  simp at h

theorem Throughout.concat {l : List α} {e : α} (h : Throughout P l) (he : P l e) :
    Throughout P (l ++ [e]) := by
  intro before e' hp
  rcases List.prefix_concat_iff.1 hp with heq | hp
  · obtain ⟨rfl, rfl⟩ := List.append_inj' heq rfl |>.imp id List.singleton_inj.1
    exact he
  · exact h before e' hp

/-- Elements on which there is no condition may follow. -/
theorem Throughout.append {l : List α} (h : Throughout P l) (m : List α)
    (hm : ∀ e ∈ m, ∀ before, P before e) : Throughout P (l ++ m) := by
  induction m generalizing l with
  | nil => rwa [List.append_nil]
  | cons e m ih =>
    rw [List.append_cons]
    exact ih (h.concat (hm e List.mem_cons_self l)) fun e' he' => hm e' (List.mem_cons_of_mem _ he')

/-- What is kept by elements that meet the condition holds of the whole list. -/
theorem Throughout.induction {motive : List α → Prop} {l : List α} (h : Throughout P l)
    (nil : motive [])
    (concat : ∀ before e, motive before → P before e → motive (before ++ [e])) : motive l := by
  -- The induction is on what is still to come, so that the condition is known of each next element.
  suffices hs : ∀ after before, l = before ++ after → motive before → motive l from hs l [] rfl nil
  intro after
  induction after with
  | nil =>
    intro before hl hm
    rwa [hl, List.append_nil]
  | cons e after ih =>
    intro before hl hm
    refine ih (before ++ [e]) (by rw [hl]; simp) (concat before e hm (h before e ?_))
    exact ⟨after, by rw [hl]; simp⟩

theorem Throughout.of_prefix {before l : List α} (h : Throughout P l) (hp : before <+: l) :
    Throughout P before :=
  fun _ _ hp' => h _ _ (hp'.trans hp)

theorem Throughout.at {before after : List α} {e : α} (h : Throughout P (before ++ e :: after)) :
    P before e :=
  h before e ⟨after, by simp⟩

theorem throughout_iff {l : List α} :
    Throughout P l ↔ ∀ k (h : k < l.length), P (l.take k) l[k] := by
  constructor
  · intro ht k h
    refine ht _ _ ?_
    rw [List.take_append_getElem h]
    exact List.take_prefix ..
  · rintro ht before e ⟨after, rfl⟩
    simpa using ht before.length (by simp)

instance {l : List α} [∀ before e, Decidable (P before e)] : Decidable (Throughout P l) :=
  decidable_of_iff _ throughout_iff.symm

end Throughout

end Session

end PrintClient
