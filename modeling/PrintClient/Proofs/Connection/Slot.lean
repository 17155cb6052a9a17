import Mathlib.Data.List.Range
import PrintClient.Proofs.Connection.Deeds

/-!
# One request at a time

A connection takes a request when it has no other, and writes it under the next number. So there is
at most one request on its way to the server or waiting for its response.

* `writes`, `Answered`, `TimedOut`, `IsSettled`: the requests that were written, and what settles
  them;
* `Numbered`, `numbered_after`: a request is written only when all that were written before are
  settled;
* `OneAtATime`, `one_request_at_a_time`: what the owner and the server see of it.
-/

namespace PrintClient

namespace Connection

variable {R E : Type}

/-- The numbers under which requests were written. -/
def writes (history : List (Event R E)) : List Nat :=
  history.filterMap fun
    | .did (.wrote id ..) => some id
    | _ => none

/-- The response with this number was read, and its data were handed to the handler of the request
that was written under it. -/
def Answered (history : List (Event R E)) (id : Nat) : Prop :=
  ∃ before after frame request handler data,
    history = before ++ .did (.read (.text frame)) :: .did (.answered handler data) :: after ∧
      Frame.response? frame = some (id, data) ∧ .did (.wrote id request handler) ∈ before

/-- The owner was told that no response with this number came in time. -/
def TimedOut (history : List (Event R E)) (id : Nat) : Prop :=
  ∃ milliseconds, .did (.failed (.timeout id milliseconds)) ∈ history

/-- The request with this number was answered or timed out. -/
def IsSettled (history : List (Event R E)) (id : Nat) : Prop :=
  Answered history id ∨ TimedOut history id

theorem writes_append (history more : List (Event R E)) :
    writes (history ++ more) = writes history ++ writes more :=
  List.filterMap_append

theorem IsSettled.append {history : List (Event R E)} {id : Nat} (h : IsSettled history id)
    (more : List (Event R E)) : IsSettled (history ++ more) id := by
  rcases h with ⟨before, after, frame, request, handler, data, rfl, hr, hw⟩ | ⟨ms, h⟩
  · exact .inl ⟨before, after ++ more, frame, request, handler, data, by simp, hr, hw⟩
  · exact .inr ⟨ms, List.mem_append_left _ h⟩

/-- Requests are numbered from one to `n`, and all but the last are settled. The last one is settled
too, unless it is being written or in the slot, or the connection was done with its work before. -/
structure Numbered (history : List (Event R E)) (c : Connection R E) (n : Nat) : Prop where
  numbers : writes history = List.range' 1 n
  settled : ∀ id, 0 < id → id < n → IsSettled history id
  lastId : ¬ c.IsOver → c.lastId = n
  free : ¬ c.IsOver → c.awaited = [] → 0 < n → IsSettled history n
  writing : ∀ handler, c.writing? = some handler →
    ∃ request, .did (.wrote n request handler) ∈ history
  pending : ∀ p, c.slot? = some p →
    p.callbackId = n ∧ ∃ request, .did (.wrote n request p.handler) ∈ history

section Numbered

variable {history more : List (Event R E)} {c c' : Connection R E} {n : Nat}

theorem writes_of_not_wrote (h : ∀ id request handler, .did (.wrote id request handler) ∉ history) :
    writes history = [] := by
  refine List.filterMap_eq_nil_iff.2 fun e he => ?_
  split
  · exact absurd he (h _ _ _)
  · rfl

/-- A connection that goes on without a new request keeps the numbers. -/
theorem Numbered.keep (h : Numbered history c n) (hmore : writes more = [])
    (hover : ¬ c'.IsOver → ¬ c.IsOver) (hslot : c'.slot? = c.slot?)
    (hwriting : c'.writing? = c.writing?) (hlast : c'.lastId = c.lastId) :
    Numbered (history ++ more) c' n where
  numbers := by rw [writes_append, hmore, List.append_nil, h.numbers]
  settled id hid hlt := (h.settled id hid hlt).append more
  lastId hc := hlast.trans (h.lastId (hover hc))
  free hc hfree hn := by
    rw [awaited_eq, hwriting, hslot, ← awaited_eq] at hfree
    exact (h.free (hover hc) hfree hn).append more
  writing handler hw := by
    obtain ⟨request, hw⟩ := h.writing handler (hwriting ▸ hw)
    exact ⟨request, List.mem_append_left _ hw⟩
  pending p hp := by
    obtain ⟨hid, request, hw⟩ := h.pending p (hslot ▸ hp)
    exact ⟨hid, request, List.mem_append_left _ hw⟩

/-- The request in the slot is settled. -/
theorem Numbered.settle (h : Numbered history c n) (hmore : writes more = [])
    (hover : ¬ c.IsOver) (hfree : c'.awaited = []) (hlast : c'.lastId = c.lastId)
    (hsettled : IsSettled (history ++ more) n) : Numbered (history ++ more) c' n where
  numbers := by rw [writes_append, hmore, List.append_nil, h.numbers]
  settled id hid hlt := (h.settled id hid hlt).append more
  lastId _ := hlast.trans (h.lastId hover)
  free _ _ _ := hsettled
  writing handler hw := by
    rw [writing?_of_awaited hfree] at hw
    cases hw
  pending p hp := by
    rw [slot?_of_awaited hfree] at hp
    cases hp

theorem Numbered.finish (h : Numbered history c n) (hmore : writes more = []) (hover : c'.IsOver) :
    Numbered (history ++ more) c' n where
  numbers := by rw [writes_append, hmore, List.append_nil, h.numbers]
  settled id hid hlt := (h.settled id hid hlt).append more
  lastId hc := absurd hover hc
  free hc := absurd hover hc
  writing handler hw := by
    rw [writing?_of_awaited (awaited_of_isOver hover)] at hw
    cases hw
  pending p hp := by
    rw [slot?_of_isOver hover] at hp
    cases hp

/-- A request is written under the next number. -/
theorem Numbered.wrote (h : Numbered history c n) {request : Request} {handler : R}
    (hover : ¬ c.IsOver) (hfree : c.awaited = [])
    (hwriting : c'.writing? = some handler) (hlast : c'.lastId = c.lastId + 1) :
    Numbered (history ++ [.did (.wrote (c.lastId + 1) request handler)]) c' (n + 1) where
  numbers := by
    rw [writes_append, h.numbers, List.range'_1_concat, h.lastId hover, Nat.add_comm 1 n]
    rfl
  settled id hid hlt := by
    apply IsSettled.append
    rcases Nat.lt_or_ge id n with hid' | hid'
    · exact h.settled id hid hid'
    · obtain rfl : id = n := by omega
      exact h.free hover hfree hid
  lastId _ := by rw [hlast, h.lastId hover]
  free _ hc' := by
    rw [writing?_of_awaited hc'] at hwriting
    cases hwriting
  writing handler' hw := by
    rw [hwriting] at hw
    cases hw
    rw [h.lastId hover]
    exact ⟨request, List.mem_append_right _ (List.mem_singleton.2 rfl)⟩
  pending p hp := by
    rw [slot?_of_writing? hwriting] at hp
    cases hp

/-- The request that was being written is in the slot. -/
theorem Numbered.armed (h : Numbered history c n) {handler : R} {deadline : Nat}
    (hmore : writes more = []) (hover : ¬ c.IsOver) (hwriting : c.writing? = some handler)
    (hslot : c'.slot? = some ⟨c.lastId, handler, deadline⟩) (hlast : c'.lastId = c.lastId) :
    Numbered (history ++ more) c' n where
  numbers := by rw [writes_append, hmore, List.append_nil, h.numbers]
  settled id hid hlt := (h.settled id hid hlt).append more
  lastId _ := hlast.trans (h.lastId hover)
  free _ hc' := by
    rw [slot?_of_awaited hc'] at hslot
    cases hslot
  writing handler' hw := by
    rw [writing?_of_slot? hslot] at hw
    cases hw
  pending p hp := by
    rw [hslot] at hp
    cases hp
    obtain ⟨request, hw⟩ := h.writing handler hwriting
    exact ⟨h.lastId hover, request, List.mem_append_left _ hw⟩

theorem Numbered.deed {l l' : Link R E} {now : Nat} {effects : List (Effect R E)}
    (hn : Numbered history l.connection n) (h : l.Deed now l' effects) :
    ∃ n', Numbered (history ++ effects.map .did) l'.connection n' := by
  cases h with
  | passed working working' slot writing writing' lastId _ aside =>
    refine ⟨n, hn.keep (writes_of_not_wrote fun id request handler hmem => ?_) (fun _ => working)
      slot (writing'.trans writing.symm) lastId⟩
    obtain ⟨e, he, heq⟩ := List.mem_map.1 hmem
    cases heq
    cases aside _ he
  | wrote _ working _ free _ writing lastId _ effects_eq =>
    subst effects_eq
    exact ⟨n + 1, hn.wrote working free writing lastId⟩
  | armed working _ writing slot lastId _ effects_eq =>
    subst effects_eq
    exact ⟨n, hn.armed rfl working writing slot lastId⟩
  | @answered p frame data working _ slot response free lastId _ effects_eq =>
    subst effects_eq
    obtain ⟨hid, request, hw⟩ := hn.pending p slot
    refine ⟨n, hn.settle rfl working free lastId (.inl ?_)⟩
    exact ⟨history, [], frame, request, p.handler, data, rfl, hid ▸ response, hw⟩
  | @expired p working _ slot _ _ _ free lastId _ effects_eq =>
    subst effects_eq
    obtain ⟨hid, -⟩ := hn.pending p slot
    refine ⟨n, hn.settle rfl working free lastId
      (.inr ⟨min l.connection.timeout longestReport, ?_⟩)⟩
    simp [hid]
  | finished _ done _ _ last =>
    refine ⟨n, hn.finish (writes_of_not_wrote fun id request handler hmem => ?_) done⟩
    obtain ⟨e, he, heq⟩ := List.mem_map.1 hmem
    cases heq
    rcases last _ he with ⟨_, h⟩ | ⟨_, h⟩ | ⟨_, h, -⟩ <;> cases h

end Numbered

namespace Run

/-- **A request is written only when all that were written before are settled**, in every run. -/
theorem numbered_after (timeout : Nat) (acts : List (Act R E)) :
    ∃ n, Numbered (after timeout acts).history (after timeout acts).link.connection n := by
  refine after_induction timeout acts
    (P := fun r => ∃ n, Numbered r.history r.link.connection n) ?_ ?_
  · exact ⟨0, rfl, by omega, fun _ => rfl, by omega,
      by simp [writing?, start, Link.new, Connection.new],
      by simp [slot?, start, Link.new, Connection.new]⟩
  · rintro r acts a rfl ⟨n, hn⟩
    rcases (did_act _ a).handed_or_moved with ⟨more, h⟩ | ⟨l', effects, step, move, heq⟩
    · refine ⟨n, ?_⟩
      rw [h.history]
      refine hn.keep (writes_of_not_wrote fun id request handler hmem => ?_)
        (fun hover hover' => hover (h.isOver.2 hover')) h.slot h.writing
        h.lastId
      cases h.replies _ hmem
    · rw [heq, history_note]
      exact hn.deed (move.deed (isExact_after timeout acts) step)

end Run

/-- What is promised of a connection on its way to the server or open. -/
structure OneAtATime (c : Connection R E) : Prop where
  /-- The flag counts the requests in the inbox and the one that is written or in the slot. -/
  count : c.waiting.length + c.awaited.length = c.busy.toNat
  accepts : ∀ request handler,
    (∃ c', c.send request handler = .ok c') ↔ c.waiting = [] ∧ c.awaited = []
  refuses : ∀ request handler, ¬ (c.waiting = [] ∧ c.awaited = []) →
    c.send request handler = .error .requestInFlight
  /-- No request is given up because another one is in the slot. -/
  takes : ∀ t request handler rest, c.phase = .talking t →
    c.inbox = .send request handler :: rest → t.pending = none

theorem IsExact.oneAtATime {c : Connection R E} (hc : c.IsExact)
    (hp : c.phase = .opening ∨ (∃ t, c.phase = .talking t) ∨
      ∃ t handler, c.phase = .writing t handler) : c.OneAtATime := by
  have hover : ¬ c.IsOver := by
    rcases hp with hp | ⟨t, hp⟩ | ⟨t, handler, hp⟩ <;> simp [IsOver, hp]
  have hcount : c.waiting.length + c.awaited.length = c.busy.toNat := by
    rw [← hc hover, Connection.outstanding, List.length_append, Nat.add_comm]
  have hfree : c.busy = false ↔ c.waiting = [] ∧ c.awaited = [] := by
    rw [← List.length_eq_zero_iff, ← List.length_eq_zero_iff, ← Bool.toNat_eq_zero]
    omega
  have hbusy : c.busy = true → ∀ request handler,
      c.send request handler = .error .requestInFlight := by
    intro hb request handler
    rcases hp with hp | ⟨t, hp⟩ | ⟨t, _, hp⟩ <;> simp [send, hp, hb]
  have hsend : c.busy = false → ∀ request handler, ∃ c', c.send request handler = .ok c' := by
    intro hb request handler
    rcases hp with hp | ⟨t, hp⟩ | ⟨t, _, hp⟩ <;> simp [send, hp, hb]
  refine ⟨hcount, fun request handler => ⟨?_, fun h => hsend (hfree.2 h) request handler⟩,
    fun request handler h => ?_, fun t request handler rest ht hi => hc.pending_eq_none ht hi⟩
  · rintro ⟨c', hok⟩
    refine hfree.1 (Bool.eq_false_iff.2 fun hb => ?_)
    rw [hbusy hb] at hok
    cases hok
  · cases hb : c.busy with
    | true => exact hbusy hb request handler
    | false => exact absurd (hfree.1 hb) h

namespace Run

/-- **A connection takes one request at a time and loses none.** While it is on its way to the
server or open, its flag tells exactly whether a request is in the inbox, being written or in the
slot; a request is accepted exactly when there is none, and a request that is taken from the inbox
finds the slot empty. A step calls the handler of a response or of failures last, so that what such
a handler sends is sent after the step. At most one of the requests that were written is neither
answered nor timed out. -/
theorem one_request_at_a_time (timeout : Nat) (acts : List (Act R E)) :
    ((after timeout acts).link.connection.phase = .opening ∨
        (∃ t, (after timeout acts).link.connection.phase = .talking t) ∨
        (∃ t handler, (after timeout acts).link.connection.phase = .writing t handler) →
      (after timeout acts).link.connection.OneAtATime) ∧
    (∀ l' effects, (after timeout acts).link.step? (after timeout acts).clock = some (l', effects) →
      effects.Pairwise fun e e' => e.isReport = true → ∃ handler, e' = .dropped handler) ∧
    (writes (after timeout acts).history).Nodup ∧
    ∀ id ∈ writes (after timeout acts).history, ∀ id' ∈ writes (after timeout acts).history,
      ¬ IsSettled (after timeout acts).history id → ¬ IsSettled (after timeout acts).history id' →
      id = id' := by
  obtain ⟨n, hn⟩ := numbered_after timeout acts
  have hlast : ∀ id ∈ writes (after timeout acts).history,
      ¬ IsSettled (after timeout acts).history id → id = n := by
    intro id hid hopen
    rw [hn.numbers, List.mem_range'_1] at hid
    rcases Nat.lt_or_ge id n with hlt | hge
    · exact absurd (hn.settled id (by omega) hlt) hopen
    · omega
  refine ⟨(isExact_after timeout acts).oneAtATime,
    fun l' effects hs => Link.calls_last (Link.move_of_step? hs), ?_, ?_⟩
  · rw [hn.numbers]
    exact List.nodup_range'
  · intro id hid id' hid' hopen hopen'
    rw [hlast id hid hopen, hlast id' hid' hopen']

/-- A connection that was let in and has written its first request. -/
def sampleRequest : List (Act Nat Nat) :=
  [.connect, .offer (.ok ()), .step, .send (.named "listPrinter") 1, .step, .step]

theorem sampleRequest_refuses_next :
    (after 500 sampleRequest).link.connection.phase = .talking ⟨1, some ⟨1, 1, 500⟩, []⟩ ∧
      (after 500 sampleRequest).link.connection.send (.named "listModel") 2 =
        .error .requestInFlight := by
  have hphase : (after 500 sampleRequest).link.connection.phase =
      .talking ⟨1, some ⟨1, 1, 500⟩, []⟩ := by
    decide +kernel
  have halone := (one_request_at_a_time 500 sampleRequest).1 (.inr (.inl ⟨_, hphase⟩))
  have hawaited : (after 500 sampleRequest).link.connection.awaited = [1] := by decide +kernel
  refine ⟨hphase, halone.refuses _ _ ?_⟩
  rw [hawaited]
  simp

end Run

end Connection

end PrintClient
