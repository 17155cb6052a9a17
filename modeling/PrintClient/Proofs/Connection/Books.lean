import Mathlib.Data.List.Nodup
import PrintClient.Proofs.Connection.Deeds
import PrintClient.Proofs.Session.History

/-!
# The requests of a connection, accounted for

The requests that a connection accepts come to their end one by one, in the order in which they were
accepted. Each is written under the number that it has among all of them, so that what is told of a
number is told of one request.

* `endings`, `responses`, `timeouts`: what happened to requests;
* `WrittenBefore`, `AwaitsSince`: a request was written, its text was taken at a time, and its
  response has not been read;
* `Event.Lawful`: what has happened before an event that is about a request;
* `Run.Books`: the requests that were accepted are those that have ended and those that the
  connection has. `Books.keep`, `wrote`, `taken`, `ended` and `finish` say what becomes of that;
* `books_after`: this holds of every run.
-/

namespace PrintClient

open Session (Throughout throughout_nil)

namespace Connection

variable {R E : Type}

namespace Event

/-- The handler of a request that came to its end, with the data that it was called with. -/
def ending? : Event R E → Option (R × Option Json)
  | .did (.answered handler data) => some (handler, some data)
  | .did (.dropped handler) => some (handler, none)
  | _ => none

/-- The number and the data of a response that was read. -/
def response? : Event R E → Option (Nat × Json)
  | .did (.read (.text frame)) => Frame.response? frame
  | _ => none

/-- The number of a request whose response did not come in time. -/
def timeout? : Event R E → Option Nat
  | .did (.failed (.timeout id _)) => some id
  | _ => none

/-- Whether nothing is written, and no request comes to its end. -/
def isAside : Event R E → Bool
  | .did e => !e.isOfRequest
  | _ => true

end Event

/-- The requests that came to their end, in this order. -/
def endings (history : List (Event R E)) : List (R × Option Json) := history.filterMap Event.ending?

/-- The responses that were read. -/
def responses (history : List (Event R E)) : List (Nat × Json) := history.filterMap Event.response?

/-- The numbers of the requests whose responses did not come in time. -/
def timeouts (history : List (Event R E)) : List Nat := history.filterMap Event.timeout?

/-- A request was written under this number, which is that of the first request that has not come to
its end; and no response with this number is among what has happened since. -/
def WrittenBefore (trace : List (Nat × Event R E)) (id : Nat) (handler : R)
    (later : List (Nat × Event R E)) : Prop :=
  id = (endings (trace.map Prod.snd)).length + 1 ∧
    (∃ earlier now request, trace = earlier ++ (now, .did (.wrote id request handler)) :: later) ∧
      endings (later.map Prod.snd) = [] ∧ ∀ data, (id, data) ∉ responses (later.map Prod.snd)

/-- A request was written under this number, the transport has taken its text at `since`, and no
response with this number was read since it was written. -/
def AwaitsSince (trace : List (Nat × Event R E)) (id : Nat) (handler : R) (since : Nat) : Prop :=
  ∃ later, WrittenBefore trace id handler later ∧ (since, .did (.armed id handler)) ∈ later

/-- What has happened before an event that is about a request.

* A request is written under the number that it has among those that were accepted, when all before
  it have ended.
* The transport takes the text of the request that was written last and has not ended.
* A handler is called with the data of a response that was just read, when its request awaits a
  response with this number and was not told to be late.
* A response is told not to have come in time when its request still awaits it, and `late` holds of
  its deadline and the time. -/
def Event.Lawful (timeout : Nat) (late : Nat → Nat → Prop) (before : List (Nat × Event R E)) :
    Nat × Event R E → Prop
  | (_, .did (.wrote id _ handler)) =>
    id = (endings (before.map Prod.snd)).length + 1 ∧
      (Connection.accepted (before.map Prod.snd))[(endings (before.map Prod.snd)).length]? =
        some handler
  | (_, .did (.armed id handler)) => ∃ later, WrittenBefore before id handler later
  | (_, .did (.answered handler data)) =>
    ∃ earlier now frame id since, before = earlier ++ [(now, .did (.read (.text frame)))] ∧
      Frame.response? frame = some (id, data) ∧ AwaitsSince earlier id handler since ∧
      id ∉ timeouts (earlier.map Prod.snd)
  | (now, .did (.failed (.timeout id milliseconds))) =>
    milliseconds = min timeout longestReport ∧
      ∃ handler since, AwaitsSince before id handler since ∧ late (since + timeout) now
  | _ => True

section Readings

variable {history more : List (Event R E)}

theorem endings_append (history more : List (Event R E)) :
    endings (history ++ more) = endings history ++ endings more :=
  List.filterMap_append

theorem responses_append (history more : List (Event R E)) :
    responses (history ++ more) = responses history ++ responses more :=
  List.filterMap_append

theorem timeouts_append (history more : List (Event R E)) :
    timeouts (history ++ more) = timeouts history ++ timeouts more :=
  List.filterMap_append

theorem endings_of_aside (h : ∀ e ∈ more, e.isAside = true) : endings more = [] := by
  refine List.filterMap_eq_nil_iff.2 fun e he => ?_
  have haside := h e he
  unfold Event.ending?
  split <;> first | rfl | cases haside

theorem timeouts_of_aside (h : ∀ e ∈ more, e.isAside = true) : timeouts more = [] := by
  refine List.filterMap_eq_nil_iff.2 fun e he => ?_
  have haside := h e he
  unfold Event.timeout?
  split <;> first | rfl | cases haside

theorem Event.lawful_of_isAside {e : Event R E} (h : e.isAside = true) (timeout : Nat)
    (late : Nat → Nat → Prop) (before : List (Nat × Event R E)) (now : Nat) :
    Event.Lawful timeout late before (now, e) := by
  unfold Event.Lawful
  split
  · rename_i heq
    cases heq
    cases h
  · rename_i heq
    cases heq
    cases h
  · rename_i heq
    cases heq
    cases h
  · rename_i heq
    cases heq
    cases h
  · trivial

/-- What has ended stays so. -/
theorem getElem?_endings_append {k : Nat} {x : R × Option Json}
    (h : (endings history)[k]? = some x) (more : List (Event R E)) :
    (endings (history ++ more))[k]? = some x := by
  rw [endings_append, List.getElem?_append_left (List.getElem?_eq_some_iff.1 h).1, h]

end Readings

theorem WrittenBefore.append {trace later : List (Nat × Event R E)} {id : Nat} {handler : R}
    (h : WrittenBefore trace id handler later) {more : List (Nat × Event R E)}
    (hend : endings (more.map Prod.snd) = [])
    (hresponse : ∀ data, (id, data) ∉ responses (more.map Prod.snd)) :
    WrittenBefore (trace ++ more) id handler (later ++ more) := by
  obtain ⟨hid, ⟨earlier, now, request, rfl⟩, hlater, hnone⟩ := h
  refine ⟨?_, ⟨earlier, now, request, by simp⟩, ?_, ?_⟩
  · rw [List.map_append, endings_append, hend, List.append_nil]
    exact hid
  · rw [List.map_append, endings_append, hlater, hend]
    rfl
  · intro data hmem
    rw [List.map_append, responses_append, List.mem_append] at hmem
    rcases hmem with hmem | hmem
    · exact hnone data hmem
    · exact hresponse data hmem

theorem AwaitsSince.append {trace : List (Nat × Event R E)} {id since : Nat} {handler : R}
    (h : AwaitsSince trace id handler since) {more : List (Nat × Event R E)}
    (hend : endings (more.map Prod.snd) = [])
    (hresponse : ∀ data, (id, data) ∉ responses (more.map Prod.snd)) :
    AwaitsSince (trace ++ more) id handler since := by
  obtain ⟨later, hwritten, harmed⟩ := h
  exact ⟨later ++ more, hwritten.append hend hresponse, List.mem_append_left _ harmed⟩

/-- The number of a request whose response is awaited is that of the first one that has not ended.
-/
theorem AwaitsSince.number {trace : List (Nat × Event R E)} {id since : Nat} {handler : R}
    (h : AwaitsSince trace id handler since) :
    id = (endings (trace.map Prod.snd)).length + 1 := by
  obtain ⟨_, hwritten, -⟩ := h
  exact hwritten.1

namespace Run

/-- The requests that a run accepted are those that have ended and those that its connection has. -/
structure Books (timeout : Nat) (late : Nat → Nat → Prop) (r : Run R E) : Prop where
  limit : r.link.connection.timeout = timeout
  accounts : accepted r.history =
    (endings r.history).map Prod.fst ++ r.link.connection.outstanding
  lawful : Throughout (Event.Lawful timeout late) r.trace
  /-- The number of the last request is its place among all that were accepted. -/
  free : ¬ r.link.connection.IsOver → r.link.connection.awaited = [] →
    r.link.connection.lastId = (endings r.history).length
  writing : ∀ handler, r.link.connection.writing? = some handler →
    ∃ later, WrittenBefore r.trace r.link.connection.lastId handler later
  slot : ∀ p, r.link.connection.slot? = some p → r.link.connection.lastId = p.callbackId ∧
    ∃ since, AwaitsSince r.trace p.callbackId p.handler since ∧ p.deadline = since + timeout
  written : ∀ now id request handler, (now, .did (.wrote id request handler)) ∈ r.trace →
    id ≤ (endings r.history).length ∨
      (r.link.connection.writing? = some handler ∧ r.link.connection.lastId = id) ∨
      ∃ since, r.link.connection.slot? = some ⟨id, handler, since + timeout⟩ ∧
        (since, .did (.armed id handler)) ∈ r.trace
  armed : ∀ since id handler, (since, .did (.armed id handler)) ∈ r.trace →
    id ≤ (endings r.history).length ∨
      r.link.connection.slot? = some ⟨id, handler, since + timeout⟩
  timedOut : ∀ id ∈ timeouts r.history,
    0 < id ∧ ∃ handler, (endings r.history)[id - 1]? = some (handler, none)
  once : (timeouts r.history).Nodup
  lost : ∀ k handler, (endings r.history)[k]? = some (handler, none) →
    k + 1 ∈ timeouts r.history ∨ r.link.connection.IsOver

variable {r r' : Run R E} {timeout : Nat} {late : Nat → Nat → Prop}

theorem Books.timedOut_le (h : r.Books timeout late) {id : Nat} (hid : id ∈ timeouts r.history) :
    id ≤ (endings r.history).length := by
  obtain ⟨hpos, handler, hk⟩ := h.timedOut id hid
  have := (List.getElem?_eq_some_iff.1 hk).1
  omega

/-- The first request that has not ended is the first of those that the connection has. -/
theorem Books.accepted_next (h : r.Books timeout late) {handler : R} {others : List R}
    (hfirst : r.link.connection.outstanding = handler :: others) :
    (accepted r.history)[(endings r.history).length]? = some handler := by
  rw [h.accounts, hfirst, List.getElem?_append_right (by simp)]
  simp

/-- A request that was written and has not ended is the one that is being written or awaits its
response. -/
theorem Books.number_of_written (h : r.Books timeout late) {now id : Nat} {request : Request}
    {handler : R} (hw : (now, .did (.wrote id request handler)) ∈ r.trace) :
    id ≤ (endings r.history).length ∨
      id = (endings r.history).length + 1 ∧ r.link.connection.awaited = [handler] := by
  rcases h.written now id request handler hw with hle | ⟨hwriting, hid⟩ | ⟨since, hslot, -⟩
  · exact .inl hle
  · obtain ⟨_, hnumber, -⟩ := h.writing handler hwriting
    exact .inr ⟨hid ▸ hnumber, by simp [awaited_eq, hwriting, slot?_of_writing? hwriting]⟩
  · obtain ⟨-, _, hawaits, -⟩ := h.slot _ hslot
    exact .inr ⟨hawaits.number, by simp [awaited_eq, hslot, writing?_of_slot? hslot]⟩

/-- What is about no request changes nothing. -/
theorem Books.keep (h : r.Books timeout late) {es : List (Event R E)}
    (htrace : r'.trace = r.trace ++ es.map fun e => (r.clock, e))
    (haside : ∀ e ∈ es, e.isAside = true)
    (hunmatched : ∀ p data, r.link.connection.slot? = some p →
      (p.callbackId, data) ∉ responses es)
    (hunread : r.link.connection.writing? = none ∨ responses es = [])
    (htimeout : r'.link.connection.timeout = r.link.connection.timeout)
    (hover : r'.link.connection.IsOver ↔ r.link.connection.IsOver)
    (hslot : r'.link.connection.slot? = r.link.connection.slot?)
    (hwriting : r'.link.connection.writing? = r.link.connection.writing?)
    (hlast : r'.link.connection.lastId = r.link.connection.lastId)
    (hout : r'.link.connection.outstanding = r.link.connection.outstanding ++ accepted es) :
    r'.Books timeout late := by
  have hmap : (es.map fun e => (r.clock, e)).map Prod.snd = es := by
    simp [Function.comp_def]
  have hhistory : r'.history = r.history ++ es := history_of_trace htrace
  have hnone : ∀ e, e.isAside = false → ∀ now, (now, e) ∈ r'.trace → (now, e) ∈ r.trace := by
    intro e he now hmem
    rw [htrace, List.mem_append] at hmem
    refine hmem.resolve_right fun hmore => ?_
    obtain ⟨e', he', heq⟩ := List.mem_map.1 hmore
    cases heq
    rw [haside _ he'] at he
    cases he
  have hend : endings r'.history = endings r.history := by
    rw [hhistory, endings_append, endings_of_aside haside, List.append_nil]
  have htimeouts : timeouts r'.history = timeouts r.history := by
    rw [hhistory, timeouts_append, timeouts_of_aside haside, List.append_nil]
  exact {
    limit := htimeout.trans h.limit
    accounts := by
      rw [hend, hhistory, accepted_append, h.accounts, hout, List.append_assoc]
    lawful := by
      rw [htrace]
      refine h.lawful.append _ fun x hx before => ?_
      obtain ⟨e, he, rfl⟩ := List.mem_map.1 hx
      exact Event.lawful_of_isAside (haside e he) _ _ _ _
    free := fun hworking hfree => by
      rw [hlast, hend]
      rw [awaited_eq, hwriting, hslot, ← awaited_eq] at hfree
      exact h.free (fun h' => hworking (hover.2 h')) hfree
    writing := fun handler hw => by
      rw [hwriting] at hw
      obtain ⟨later, hwritten⟩ := h.writing handler hw
      rw [hlast, htrace]
      refine ⟨_, hwritten.append ?_ fun data => ?_⟩
      · rw [hmap]
        exact endings_of_aside haside
      · rw [hmap, hunread.resolve_left fun hnot => by rw [hw] at hnot; cases hnot]
        exact List.not_mem_nil
    slot := fun p hp => by
      rw [hslot] at hp
      obtain ⟨hid, since, hawaits, hdeadline⟩ := h.slot p hp
      refine ⟨hlast.trans hid, since, ?_, hdeadline⟩
      rw [htrace]
      refine hawaits.append ?_ fun data => ?_
      · rw [hmap]
        exact endings_of_aside haside
      · rw [hmap]
        exact hunmatched p data hp
    written := fun now id request handler hmem => by
      rw [hend, hslot, hwriting, hlast]
      refine (h.written now id request handler (hnone _ rfl now hmem)).imp_right
        (Or.imp_right ?_)
      rintro ⟨since, hpend, harmed⟩
      exact ⟨since, hpend, htrace ▸ List.mem_append_left _ harmed⟩
    armed := fun since id handler hmem => by
      rw [hend, hslot]
      exact h.armed since id handler (hnone _ rfl since hmem)
    timedOut := by
      rw [htimeouts, hend]
      exact h.timedOut
    once := by
      rw [htimeouts]
      exact h.once
    lost := by
      rw [htimeouts, hend, hover]
      exact h.lost }

/-- A request is handed to the transport. -/
theorem Books.wrote (h : r.Books timeout late) {request : Request} {handler : R} {others : List R}
    (htrace : r'.trace =
      r.trace ++ [(r.clock, .did (.wrote (r.link.connection.lastId + 1) request handler))])
    (hlimit : r'.link.connection.timeout = r.link.connection.timeout)
    (hworking : ¬ r.link.connection.IsOver)
    (hfree : r.link.connection.awaited = [])
    (hfirst : r.link.connection.outstanding = handler :: others)
    (hwriting : r'.link.connection.writing? = some handler)
    (hlast : r'.link.connection.lastId = r.link.connection.lastId + 1)
    (hout : r'.link.connection.outstanding = r.link.connection.outstanding) :
    r'.Books timeout late := by
  have hnumber := h.free hworking hfree
  have hhistory : r'.history = r.history ++
      [.did (.wrote (r.link.connection.lastId + 1) request handler)] := by
    rw [Run.history, htrace, List.map_append]
    rfl
  have hend : endings r'.history = endings r.history := by
    rw [hhistory, endings_append]
    exact List.append_nil _
  have htimeouts : timeouts r'.history = timeouts r.history := by
    rw [hhistory, timeouts_append]
    exact List.append_nil _
  have hslot := slot?_of_writing? hwriting
  have hempty := slot?_of_awaited hfree
  exact {
    limit := hlimit.trans h.limit
    accounts := by
      rw [hend, hout, ← h.accounts, hhistory, accepted_append]
      exact List.append_nil _
    lawful := by
      rw [htrace]
      refine h.lawful.concat ⟨?_, h.accepted_next hfirst⟩
      rw [hnumber]
      rfl
    free := fun _ hnone => by
      rw [writing?_of_awaited hnone] at hwriting
      cases hwriting
    writing := fun handler' hw => by
      rw [hwriting] at hw
      cases hw
      rw [hlast]
      refine ⟨[], ?_, ⟨r.trace, r.clock, request, htrace⟩, rfl, by simp [responses]⟩
      show _ = (endings r'.history).length + 1
      rw [hend, hnumber]
    slot := fun p hp => by
      rw [hslot] at hp
      cases hp
    written := fun now id request' handler' hmem => by
      rw [htrace, List.mem_append] at hmem
      rw [hend]
      rcases hmem with hmem | hmem
      · rcases h.number_of_written hmem with hle | ⟨-, hone⟩
        · exact .inl hle
        · rw [hfree] at hone
          cases hone
      · cases List.mem_singleton.1 hmem
        exact .inr (.inl ⟨hwriting, hlast⟩)
    armed := fun since id handler' hmem => by
      rw [htrace, List.mem_append] at hmem
      rw [hend]
      rcases hmem with hmem | hmem
      · refine .inl ((h.armed since id handler' hmem).resolve_right fun hpend => ?_)
        rw [hempty] at hpend
        cases hpend
      · cases List.mem_singleton.1 hmem
    timedOut := by
      rw [htimeouts, hend]
      exact h.timedOut
    once := by
      rw [htimeouts]
      exact h.once
    lost := fun k handler' hk => by
      rw [hend] at hk
      rw [htimeouts]
      exact .inl ((h.lost k handler' hk).resolve_right hworking) }

/-- The transport has taken the text of the request that was being written. -/
theorem Books.taken (h : r.Books timeout late) {handler : R}
    (htrace : r'.trace =
      r.trace ++ [(r.clock, .did (.armed r.link.connection.lastId handler))])
    (hlimit : r'.link.connection.timeout = r.link.connection.timeout)
    (hworking : ¬ r.link.connection.IsOver)
    (hwriting : r.link.connection.writing? = some handler)
    (hslot : r'.link.connection.slot? = some
      ⟨r.link.connection.lastId, handler, r.clock + r.link.connection.timeout⟩)
    (hlast : r'.link.connection.lastId = r.link.connection.lastId)
    (hout : r'.link.connection.outstanding = r.link.connection.outstanding) :
    r'.Books timeout late := by
  obtain ⟨later, hwritten⟩ := h.writing handler hwriting
  have hhistory : r'.history = r.history ++
      [.did (.armed r.link.connection.lastId handler)] := by
    rw [Run.history, htrace, List.map_append]
    rfl
  have hend : endings r'.history = endings r.history := by
    rw [hhistory, endings_append]
    exact List.append_nil _
  have htimeouts : timeouts r'.history = timeouts r.history := by
    rw [hhistory, timeouts_append]
    exact List.append_nil _
  have harmed : (r.clock, .did (.armed r.link.connection.lastId handler)) ∈ r'.trace :=
    htrace ▸ List.mem_append_right _ (List.mem_singleton.2 rfl)
  rw [h.limit] at hslot
  exact {
    limit := hlimit.trans h.limit
    accounts := by
      rw [hend, hout, ← h.accounts, hhistory, accepted_append]
      exact List.append_nil _
    lawful := by
      rw [htrace]
      exact h.lawful.concat ⟨later, hwritten⟩
    free := fun _ hnone => by
      rw [slot?_of_awaited hnone] at hslot
      cases hslot
    writing := fun handler' hw => by
      rw [writing?_of_slot? hslot] at hw
      cases hw
    slot := fun p hp => by
      rw [hslot] at hp
      cases hp
      refine ⟨hlast, r.clock, ⟨_, ?_, List.mem_append_right later (List.mem_singleton.2 rfl)⟩, rfl⟩
      rw [htrace]
      exact hwritten.append rfl (by simp [responses, Event.response?])
    written := fun now id request handler' hmem => by
      rw [htrace, List.mem_append] at hmem
      rw [hend]
      rcases hmem with hmem | hmem
      · rcases h.written now id request handler' hmem with hle | ⟨hw, hid⟩ | ⟨_, hpend, -⟩
        · exact .inl hle
        · rw [hwriting] at hw
          cases hw
          exact .inr (.inr ⟨r.clock, hid ▸ hslot, hid ▸ harmed⟩)
        · rw [slot?_of_writing? hwriting] at hpend
          cases hpend
      · cases List.mem_singleton.1 hmem
    armed := fun since id handler' hmem => by
      rw [htrace, List.mem_append] at hmem
      rw [hend]
      rcases hmem with hmem | hmem
      · refine .inl ((h.armed since id handler' hmem).resolve_right fun hpend => ?_)
        rw [slot?_of_writing? hwriting] at hpend
        cases hpend
      · cases List.mem_singleton.1 hmem
        exact .inr hslot
    timedOut := by
      rw [htimeouts, hend]
      exact h.timedOut
    once := by
      rw [htimeouts]
      exact h.once
    lost := fun k handler' hk => by
      rw [hend] at hk
      rw [htimeouts]
      exact .inl ((h.lost k handler' hk).resolve_right hworking) }

/-- The request in the slot comes to its end. -/
theorem Books.ended (h : r.Books timeout late) {p : Pending R} (data : Option Json)
    {es : List (Event R E)} (htrace : r'.trace = r.trace ++ es.map fun e => (r.clock, e))
    (hlawful : Throughout (Event.Lawful timeout late) r'.trace)
    (hend : endings es = [(p.handler, data)]) (haccepted : accepted es = [])
    (htimeouts : timeouts es = if data.isSome then [] else [p.callbackId])
    (hwrites : ∀ id request handler, .did (.wrote id request handler) ∉ es)
    (harmed : ∀ id handler, .did (.armed id handler) ∉ es)
    (hlimit : r'.link.connection.timeout = r.link.connection.timeout)
    (hworking : ¬ r.link.connection.IsOver) (hslot : r.link.connection.slot? = some p)
    (hfree : r'.link.connection.awaited = [])
    (hlast : r'.link.connection.lastId = r.link.connection.lastId)
    (hout : r.link.connection.outstanding = p.handler :: r'.link.connection.outstanding) :
    r'.Books timeout late := by
  obtain ⟨hid, since, hawaits, -⟩ := h.slot p hslot
  have hnumber : p.callbackId = (endings r.history).length + 1 := hawaits.number
  have hhistory : r'.history = r.history ++ es := history_of_trace htrace
  have hend' : endings r'.history = endings r.history ++ [(p.handler, data)] := by
    rw [hhistory, endings_append, hend]
  have hlength : (endings r'.history).length = p.callbackId := by
    rw [hend', List.length_append, hnumber]
    rfl
  have htimeouts' : timeouts r'.history =
      timeouts r.history ++ if data.isSome then [] else [p.callbackId] := by
    rw [hhistory, timeouts_append, htimeouts]
  have hnew : p.callbackId ∉ timeouts r.history := by
    intro hmem
    have := h.timedOut_le hmem
    omega
  exact {
    limit := hlimit.trans h.limit
    accounts := by
      rw [hhistory, accepted_append, haccepted, List.append_nil, h.accounts, hout, ← hhistory,
        hend', List.map_append, List.append_assoc]
      rfl
    lawful := hlawful
    free := fun _ _ => by rw [hlast, hid, hlength]
    writing := fun handler hw => by
      rw [writing?_of_awaited hfree] at hw
      cases hw
    slot := fun q hq => by
      rw [slot?_of_awaited hfree] at hq
      cases hq
    written := fun now id request handler hmem => by
      left
      rw [hlength]
      rw [htrace, List.mem_append] at hmem
      rcases hmem with hmem | hmem
      · rcases h.number_of_written hmem with hle | ⟨heq, -⟩ <;> omega
      · obtain ⟨e, he, heq⟩ := List.mem_map.1 hmem
        cases heq
        exact absurd he (hwrites _ _ _)
    armed := fun since' id handler hmem => by
      left
      rw [hlength]
      rw [htrace, List.mem_append] at hmem
      rcases hmem with hmem | hmem
      · rcases h.armed since' id handler hmem with hle | hpend
        · omega
        · rw [hslot] at hpend
          cases hpend
          exact Nat.le_refl _
      · obtain ⟨e, he, heq⟩ := List.mem_map.1 hmem
        cases heq
        exact absurd he (harmed _ _)
    timedOut := fun id hmem => by
      rw [htimeouts', List.mem_append] at hmem
      rcases hmem with hmem | hmem
      · obtain ⟨hpos, handler, hk⟩ := h.timedOut id hmem
        rw [hhistory]
        exact ⟨hpos, handler, getElem?_endings_append hk es⟩
      · cases data with
        | some data => cases hmem
        | none =>
          obtain rfl : id = p.callbackId := by simpa using hmem
          refine ⟨by omega, p.handler, ?_⟩
          rw [hend', hnumber]
          simp
    once := by
      rw [htimeouts']
      cases data with
      | some data => simpa using h.once
      | none => simpa using h.once.concat hnew
    lost := fun k handler hk => by
      left
      rw [htimeouts', List.mem_append]
      rw [hend'] at hk
      rcases Nat.lt_or_ge k (endings r.history).length with hlt | hge
      · rw [List.getElem?_append_left hlt] at hk
        exact .inl ((h.lost k handler hk).resolve_right hworking)
      · right
        have hkeq : k = (endings r.history).length := by
          have := (List.getElem?_eq_some_iff.1 hk).1
          rw [List.length_append, List.length_singleton] at this
          omega
        subst hkeq
        obtain ⟨-, rfl⟩ : p.handler = handler ∧ data = none := by simpa using hk
        simp [hnumber] }

/-- The connection is done with its work. -/
theorem Books.finish (h : r.Books timeout late) (handlers : List R) {es : List (Event R E)}
    (htrace : r'.trace = r.trace ++ es.map fun e => (r.clock, e))
    (hend : endings es = handlers.map fun handler => (handler, none)) (haccepted : accepted es = [])
    (htimeouts : timeouts es = [])
    (hlawful : ∀ e ∈ es, ∀ before, Event.Lawful timeout late before (r.clock, e))
    (hwrites : ∀ id request handler, .did (.wrote id request handler) ∉ es)
    (harmed : ∀ id handler, .did (.armed id handler) ∉ es)
    (hlimit : r'.link.connection.timeout = r.link.connection.timeout)
    (hover : r'.link.connection.IsOver) (hawaited : r.link.connection.awaited <+: handlers)
    (hout : r.link.connection.outstanding = handlers ++ r'.link.connection.outstanding) :
    r'.Books timeout late := by
  have hhistory : r'.history = r.history ++ es := history_of_trace htrace
  have hend' : endings r'.history =
      endings r.history ++ handlers.map fun handler => (handler, none) := by
    rw [hhistory, endings_append, hend]
  have htimeouts' : timeouts r'.history = timeouts r.history := by
    rw [hhistory, timeouts_append, htimeouts, List.append_nil]
  exact {
    limit := hlimit.trans h.limit
    accounts := by
      rw [hhistory, accepted_append, haccepted, List.append_nil, h.accounts, hout, ← hhistory,
        hend', List.map_append, List.append_assoc]
      simp [Function.comp_def]
    lawful := by
      rw [htrace]
      refine h.lawful.append _ fun x hx before => ?_
      obtain ⟨e, he, rfl⟩ := List.mem_map.1 hx
      exact hlawful e he before
    free := fun hworking => absurd hover hworking
    writing := fun handler hw => by
      rw [writing?_of_awaited (awaited_of_isOver hover)] at hw
      cases hw
    slot := fun p hp => by
      rw [slot?_of_isOver hover] at hp
      cases hp
    written := fun now id request handler hmem => by
      left
      rw [hend', List.length_append, List.length_map]
      rw [htrace, List.mem_append] at hmem
      rcases hmem with hmem | hmem
      · rcases h.number_of_written hmem with hle | ⟨heq, hone⟩
        · omega
        · have := (hone ▸ hawaited).length_le
          rw [List.length_singleton] at this
          omega
      · obtain ⟨e, he, heq⟩ := List.mem_map.1 hmem
        cases heq
        exact absurd he (hwrites _ _ _)
    armed := fun since id handler hmem => by
      left
      rw [hend', List.length_append, List.length_map]
      rw [htrace, List.mem_append] at hmem
      rcases hmem with hmem | hmem
      · rcases h.armed since id handler hmem with hle | hpend
        · omega
        · obtain ⟨-, _, hawaits, -⟩ := h.slot _ hpend
          have hnumber : id = (endings r.history).length + 1 := hawaits.number
          have hone : r.link.connection.awaited = [handler] := by
            simp [awaited_eq, hpend, writing?_of_slot? hpend]
          have := (hone ▸ hawaited).length_le
          rw [List.length_singleton] at this
          omega
      · obtain ⟨e, he, heq⟩ := List.mem_map.1 hmem
        cases heq
        exact absurd he (harmed _ _)
    timedOut := fun id hmem => by
      rw [htimeouts'] at hmem
      obtain ⟨hpos, handler, hk⟩ := h.timedOut id hmem
      rw [hhistory]
      exact ⟨hpos, handler, getElem?_endings_append hk es⟩
    once := by
      rw [htimeouts']
      exact h.once
    lost := fun _ _ _ => .inr hover }

/-- **A step keeps the books**, when the way to the server does not end because a response did not
come in time. -/
theorem Books.deed (h : r.Books timeout late) {l' : Link R E} {effects : List (Effect R E)}
    (hopen : ∀ failure, r.link.outcome = some (.error failure) → failure.kind ≠ .timeout)
    (hlate : ∀ p, r.link.connection.slot? = some p → p.deadline ≤ r.clock →
      late p.deadline r.clock)
    (hlimit : l'.connection.timeout = r.link.connection.timeout)
    (deed : r.link.Deed r.clock l' effects) :
    ({ r with link := l' }.note (effects.map .did)).Books timeout late := by
  cases deed with
  | passed working working' slot writing writing' lastId outstanding aside unmatched =>
    have haside : ∀ e ∈ effects.map Event.did, e.isAside = true := by
      intro e he
      obtain ⟨effect, heffect, rfl⟩ := List.mem_map.1 he
      simp [Event.isAside, aside effect heffect]
    refine h.keep rfl haside ?_ (.inl writing) hlimit
      ⟨fun h' => absurd h' working', fun h' => absurd h' working⟩ slot
      (writing'.trans writing.symm) lastId ?_
    · intro p data hp hmem
      obtain ⟨e, he, heq⟩ := List.mem_filterMap.1 hmem
      obtain ⟨effect, heffect, rfl⟩ := List.mem_map.1 he
      unfold Event.response? at heq
      split at heq
      · rename_i frame hread
        cases hread
        exact unmatched p frame data hp heffect heq
      · cases heq
    · rw [accepted_did, List.append_nil]
      exact outstanding
  | wrote request working _ free first writing lastId outstanding effects_eq =>
    subst effects_eq
    exact h.wrote rfl hlimit working free first writing lastId outstanding
  | armed working _ writing slot lastId outstanding effects_eq =>
    subst effects_eq
    exact h.taken rfl hlimit working writing slot lastId outstanding
  | @answered p frame data working _ slot response free lastId outstanding effects_eq =>
    subst effects_eq
    obtain ⟨-, since, hawaits, -⟩ := h.slot p slot
    refine h.ended (some data) rfl ?_ rfl rfl ?_ (by simp) (by simp) hlimit working slot free
      lastId outstanding
    · have hread : Throughout (Event.Lawful timeout late)
          (r.trace ++ [(r.clock, .did (.read (.text frame)))]) := h.lawful.concat trivial
      have hnew : p.callbackId ∉ timeouts r.history := by
        intro hmem
        have := h.timedOut_le hmem
        have hnumber : p.callbackId = (endings r.history).length + 1 := hawaits.number
        omega
      have hanswer : Event.Lawful timeout late
          (r.trace ++ [(r.clock, .did (.read (.text frame)))])
          (r.clock, .did (.answered p.handler data)) :=
        ⟨r.trace, r.clock, frame, p.callbackId, since, rfl, response, hawaits, hnew⟩
      have hboth := hread.concat hanswer
      rwa [List.append_assoc] at hboth
    · rfl
  | @expired p working _ slot due _ _ free lastId outstanding effects_eq =>
    subst effects_eq
    obtain ⟨-, since, hawaits, hdeadline⟩ := h.slot p slot
    refine h.ended none rfl ?_ rfl rfl ?_ (by simp) (by simp) hlimit working slot free lastId
      outstanding
    · have hfailed : Event.Lawful timeout late r.trace (r.clock, .did (.failed (.timeout
          p.callbackId (min r.link.connection.timeout longestReport)))) :=
        ⟨by rw [h.limit], p.handler, since, hawaits, hdeadline ▸ hlate p slot due⟩
      have hdropped : ∀ before : List (Nat × Event R E), Event.Lawful timeout late before
          (r.clock, .did (.dropped p.handler)) := fun _ => trivial
      have hboth := (h.lawful.concat hfailed).concat (hdropped _)
      rwa [List.append_assoc] at hboth
    · rfl
  | finished others done outstanding given last =>
    have hkind : ∀ e ∈ effects, (∃ i, e = .read i) ∨ (∃ handler, e = .dropped handler) ∨
        ∃ failure, e = .failed failure ∧ failure.kind ≠ .timeout := by
      intro e he
      refine (last e he).imp_right (Or.imp_right ?_)
      rintro ⟨failure, heq, hne⟩
      exact ⟨failure, heq, hne.elim id (hopen failure)⟩
    refine h.finish (r.link.connection.awaited ++ others) rfl ?_ ?_ ?_ ?_ ?_ ?_ hlimit done
      (List.prefix_append _ _) outstanding
    · rw [← given, endings, List.filterMap_map, List.map_filterMap]
      refine List.filterMap_congr fun e he => ?_
      rcases hkind e he with ⟨_, rfl⟩ | ⟨_, rfl⟩ | ⟨_, rfl, -⟩ <;> rfl
    · simp [Connection.accepted]
    · refine List.filterMap_eq_nil_iff.2 fun e he => ?_
      obtain ⟨effect, heffect, rfl⟩ := List.mem_map.1 he
      rcases hkind effect heffect with ⟨_, rfl⟩ | ⟨_, rfl⟩ | ⟨failure, rfl, hne⟩
      · rfl
      · rfl
      · cases failure <;> first | rfl | exact absurd rfl hne
    · intro e he before
      obtain ⟨effect, heffect, rfl⟩ := List.mem_map.1 he
      rcases hkind effect heffect with ⟨_, rfl⟩ | ⟨_, rfl⟩ | ⟨failure, rfl, hne⟩
      · trivial
      · trivial
      · cases failure <;> trivial
    · intro id request handler hmem
      obtain ⟨effect, heffect, heq⟩ := List.mem_map.1 hmem
      cases heq
      rcases hkind _ heffect with ⟨_, h'⟩ | ⟨_, h'⟩ | ⟨_, h', -⟩ <;> cases h'
    · intro id handler hmem
      obtain ⟨effect, heffect, heq⟩ := List.mem_map.1 hmem
      cases heq
      rcases hkind _ heffect with ⟨_, h'⟩ | ⟨_, h'⟩ | ⟨_, h', -⟩ <;> cases h'

theorem books_start (timeout : Nat) (late : Nat → Nat → Prop) :
    (start timeout : Run R E).Books timeout late where
  limit := rfl
  accounts := rfl
  lawful := throughout_nil
  free _ _ := rfl
  writing _ hw := by cases hw
  slot p hp := by cases hp
  written _ _ _ _ h := by cases h
  armed _ _ _ h := by cases h
  timedOut _ h := by cases h
  once := List.nodup_nil
  lost _ _ h := by simp [endings, history, start] at h

/-- **The requests that a run accepted are those that have ended and those that its connection
has.** -/
theorem books_after (timeout : Nat) {late : Nat → Nat → Prop} {acts : List (Act R E)}
    (hopen : ∀ failure, .offer (.error failure) ∈ acts → failure.kind ≠ .timeout)
    (hlate : Throughout (fun before (_ : Act R E) => ∀ p,
      (after timeout before).link.connection.slot? = some p →
      p.deadline ≤ (after timeout before).clock → late p.deadline (after timeout before).clock)
      acts) :
    (after timeout acts).Books timeout late := by
  induction acts using List.reverseRecOn with
  | nil => exact books_start timeout late
  | append_singleton acts a ih =>
    have hbooks := ih (fun failure hmem => hopen failure (List.mem_append_left _ hmem))
      (hlate.of_prefix (List.prefix_append _ _))
    rw [after_concat]
    rcases ((after timeout acts).did_act a).handed_or_moved with
      ⟨more, h⟩ | ⟨l', effects, step, move, heq⟩
    · have hnone : responses more = [] := by
        refine List.filterMap_eq_nil_iff.2 fun e he => ?_
        have hreply := h.replies e he
        cases e <;> first | rfl | cases hreply
      refine hbooks.keep h.trace ?_ ?_ (.inr hnone) h.timeout h.isOver h.slot h.writing h.lastId
        h.outstanding
      · intro e he
        have hreply := h.replies e he
        cases e <;> first | rfl | cases hreply
      · intro p data _
        rw [hnone]
        exact List.not_mem_nil
    · rw [heq]
      refine hbooks.deed (fun failure ho => ?_) (hlate _ a (List.prefix_refl _)) move.timeout
        (move.deed (isExact_after timeout acts) step)
      exact hopen failure (List.mem_append_left _ (offer_of_outcome timeout acts ho))

end Run

end Connection

end PrintClient
