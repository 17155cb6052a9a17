import PrintClient.Proofs.Connection.Books
import PrintClient.Proofs.Connection.Reports

/-!
# One outcome for every request

Every request that a connection accepts comes to one end: its handler is called with the data of
its response, or it is given up because no response came in time, or because the connection has
failed or was closed.

* `Prompt`: runs in which time does not pass by a deadline;
* `ends_within`: a request whose deadline has come ends when the connection has done what waits for
  it;
* `arrivals`, `reads`, `arrivals_eq`: what was readable;
* `free_of_timeout`: a connection that tells of a response that did not come in time is free;
* `OneOutcomeEach`, `requests_end_once`: what holds of every run.
-/

namespace PrintClient

open Session (Throughout throughout_nil)

namespace Connection

variable {R E : Type}

namespace Run

variable {r r' : Run R E} {timeout : Nat} {late : Nat → Nat → Prop}

/-! ### Deadlines -/

/-- Time does not pass by the deadline of the request that awaits its response. -/
def Prompt (timeout : Nat) (acts : List (Act R E)) : Prop :=
  Throughout (fun before a => ∀ milliseconds, a = Act.elapse milliseconds → ∀ p,
    (after timeout before).link.connection.slot? = some p →
      (after timeout before).clock + milliseconds ≤ p.deadline) acts

theorem Prompt.clock_le {acts : List (Act R E)} (h : Prompt timeout acts) {p : Pending R}
    (hp : (after timeout acts).link.connection.slot? = some p) :
    (after timeout acts).clock ≤ p.deadline := by
  induction acts using List.reverseRecOn generalizing p with
  | nil => cases hp
  | append_singleton acts a ih =>
    have hbefore : ∀ q, (after timeout acts).link.connection.slot? = some q →
        (after timeout acts).clock ≤ q.deadline :=
      fun q hq => ih (h.of_prefix (List.prefix_append _ _)) hq
    rw [after_concat] at hp ⊢
    by_cases ha : ∃ milliseconds, a = .elapse milliseconds
    · obtain ⟨milliseconds, rfl⟩ := ha
      exact h acts _ (List.prefix_refl _) milliseconds rfl p hp
    · rw [clock_act _ fun milliseconds heq => ha ⟨milliseconds, heq⟩]
      rcases ((after timeout acts).did_act a).handed_or_moved with
        ⟨more, hhanded⟩ | ⟨l', effects, step, move, heq⟩
      · exact hbefore p (hhanded.slot ▸ hp)
      · rw [heq] at hp
        replace hp : l'.connection.slot? = some p := hp
        cases move.deed (isExact_after timeout acts) step with
        | passed _ _ slot => exact hbefore p (slot ▸ hp)
        | wrote _ _ _ _ _ writing =>
          rw [slot?_of_writing? writing] at hp
          cases hp
        | armed _ _ _ slot =>
          rw [slot] at hp
          cases hp
          exact Nat.le_add_right _ _
        | answered _ _ _ _ free =>
          rw [slot?_of_awaited free] at hp
          cases hp
        | expired _ _ _ _ _ _ free =>
          rw [slot?_of_awaited free] at hp
          cases hp
        | finished _ done =>
          rw [slot?_of_isOver done] at hp
          cases hp

/-- A step that leaves the request in the slot takes something that waits, or is not possible before
the deadline. -/
theorem backlog_step {l l' : Link R E} {now : Nat} {effects : List (Effect R E)} {p : Pending R}
    (hs : l.step? now = some (l', effects)) (hp : l.connection.slot? = some p)
    (hp' : l'.connection.slot? = some p) :
    l'.connection.inbox.length + l'.unread.length + 1 =
      l.connection.inbox.length + l.unread.length := by
  have hmove := Link.move_of_step? hs
  cases hmove with
  | opened phase => simp [slot?, phase] at hp
  | refused phase => simp [slot?, phase] at hp
  | wrote phase => simp [slot?, phase] at hp
  | stopped => simp [slot?] at hp'
  | finished => simp [slot?] at hp'
  | @talked t _ _ phase _ talk =>
    rw [slot?_of_talking phase] at hp
    cases talk with
    | subscribed inbox => simp [inbox]; omega
    | wrote _ pending => simp [hp] at pending
    | givenUp inbox => simp [inbox]; omega
    | unwritable => simp [slot?] at hp'
    | read _ unread => simp [unread]; omega
    | answered => simp [slot?] at hp'
    | failed => simp [slot?] at hp'
    | expired => simp [slot?] at hp'

/-- A connection with a request in the slot whose deadline has come does not wait. -/
theorem step?_of_due {l : Link R E} {now : Nat} {p : Pending R}
    (hp : l.connection.slot? = some p) (hdue : p.deadline ≤ now) :
    ∃ l' effects, l.step? now = some (l', effects) := by
  have hphase : ∃ t, l.connection.phase = .talking t ∧ t.pending = some p := by
    unfold slot? at hp
    split at hp
    · rename_i t ht
      exact ⟨t, ht, hp⟩
    · cases hp
  obtain ⟨t, ht, hpend⟩ := hphase
  cases hs : l.step? now with
  | some done => exact ⟨done.1, done.2, rfl⟩
  | none =>
    cases hc : l.connection.cancelled with
    | true => simp [Link.step?, ht, hc] at hs
    | false =>
      obtain ⟨-, -, hnot⟩ := (Link.step?_eq_none_of_talking ht hc).1 hs
      simp [Link.isDue, hpend, hdue] at hnot

theorem endings_length_le_all (r : Run R E) (acts : List (Act R E)) :
    (endings r.history).length ≤ (endings (r.all acts).history).length := by
  induction acts generalizing r with
  | nil => exact Nat.le_refl _
  | cons a acts ih =>
    obtain ⟨more, hmore⟩ := r.trace_act a
    refine Nat.le_trans ?_ (ih (r.act a))
    rw [Run.history, Run.history, hmore, List.map_append, endings_append, List.length_append]
    exact Nat.le_add_right _ _

/-- **A request whose deadline has come ends when the connection has taken what waits for it**, and
one step more. -/
theorem ends_within {since id : Nat} {handler : R} (n : Nat) {acts : List (Act R E)}
    (hopen : ∀ failure, .offer (.error failure) ∈ acts → failure.kind ≠ .timeout)
    (harmed : (since, .did (.armed id handler)) ∈ (after timeout acts).trace)
    (hdue : since + timeout ≤ (after timeout acts).clock)
    (hn : (after timeout acts).link.connection.inbox.length +
      (after timeout acts).link.unread.length + 1 ≤ n) :
    id ≤ (endings ((after timeout acts).all (List.replicate n .step)).history).length := by
  have hbooks : ∀ {acts : List (Act R E)},
      (∀ failure, .offer (.error failure) ∈ acts → failure.kind ≠ .timeout) →
      (after timeout acts).Books timeout (· ≤ ·) :=
    fun hopen => books_after timeout hopen fun _ _ _ _ _ hle => hle
  -- The induction is on the steps; each takes one thing that waits, until the request ends.
  induction n generalizing acts with
  | zero => omega
  | succ n ih =>
    rw [List.replicate_succ]
    rcases (hbooks hopen).armed since id handler harmed with hle | hslot
    · exact Nat.le_trans hle (endings_length_le_all _ _)
    · obtain ⟨l', effects, hs⟩ := step?_of_due hslot hdue
      have hact : (after timeout acts).act .step =
          { after timeout acts with link := l' }.note (effects.map .did) := by
        simp [act, step?, hs]
      have hopen' : ∀ failure, .offer (.error failure) ∈ acts ++ [Act.step] →
          failure.kind ≠ .timeout := by
        intro failure hmem
        exact hopen failure (by simpa using hmem)
      have harmed' : (since, .did (.armed id handler)) ∈
          (after timeout (acts ++ [.step])).trace := by
        rw [after_concat, hact]
        exact List.mem_append_left _ harmed
      have hall : (after timeout acts).all (.step :: List.replicate n .step) =
          (after timeout (acts ++ [.step])).all (List.replicate n .step) := by
        rw [after_concat]
        rfl
      rw [hall]
      rcases (hbooks hopen').armed since id handler harmed' with hle | hslot'
      · exact Nat.le_trans hle (endings_length_le_all _ _)
      · refine ih hopen' harmed' ?_ ?_
        · rw [after_concat, hact]
          exact hdue
        · rw [after_concat, hact] at hslot' ⊢
          have := backlog_step hs hslot hslot'
          show l'.connection.inbox.length + l'.unread.length + 1 ≤ n
          omega

/-! ### What was readable -/

/-- What arrived. -/
def arrivals (acts : List (Act R E)) : List Inbound :=
  acts.filterMap fun
    | .arrive i => some i
    | _ => none

/-- What was read. -/
def reads (history : List (Event R E)) : List Inbound :=
  history.filterMap fun
    | .did (.read i) => some i
    | _ => none

theorem reads_append (history more : List (Event R E)) :
    reads (history ++ more) = reads history ++ reads more :=
  List.filterMap_append

theorem reads_of_not_read {history : List (Event R E)} (h : ∀ i, .did (.read i) ∉ history) :
    reads history = [] := by
  refine List.filterMap_eq_nil_iff.2 fun e he => ?_
  split
  · exact absurd he (h _)
  · rfl

/-- What is read is what arrived first. -/
theorem reads_move {l l' : Link R E} {now : Nat} {effects : List (Effect R E)}
    (h : l.Move now l' effects) : reads (effects.map .did) ++ l'.unread = l.unread := by
  have hdropped : ∀ handlers : List R,
      reads ((handlers.map Effect.dropped).map (Event.did (E := E))) = [] := by
    intro handlers
    simp [reads, Function.comp_def]
  cases h with
  | opened => rfl
  | refused => rfl
  | wrote _ step => cases step <;> rfl
  | stopped => rw [hdropped, List.nil_append]
  | finished => rw [hdropped, List.nil_append]
  | talked _ _ step =>
    cases step with
    | @read i rest deliveries _ unread _ delivered =>
      have hnone : reads (deliveries.map Event.did) = [] := by
        refine reads_of_not_read fun i hmem => ?_
        obtain ⟨e, he, heq⟩ := List.mem_map.1 hmem
        cases heq
        obtain ⟨_, _, _, he⟩ := delivered _ he
        cases he
      rw [unread]
      show i :: reads (deliveries.map Event.did) ++ rest = i :: rest
      rw [hnone]
      rfl
    | answered _ unread => exact unread.symm
    | @failed i rest failure _ unread =>
      rw [unread, List.map_cons, List.map_append]
      show i :: reads (_ ++ [Event.did (.failed failure)]) ++ rest = i :: rest
      rw [reads_append, hdropped]
      rfl
    | _ => rfl

theorem reads_act (r : Run R E) (a : Act R E) :
    reads (r.act a).history ++ (r.act a).link.unread =
      reads r.history ++ r.link.unread ++ arrivals [a] := by
  cases a with
  | connect =>
    rcases r.act_connect with ⟨-, hact⟩ | hact <;> rw [hact] <;> exact (List.append_nil _).symm
  | send request handler =>
    rcases r.link.connection.send_cases request handler with ⟨failure, hs⟩ | ⟨-, -, -, hs⟩
    · simp [act, hs, arrivals, note, history, reads]
    · simp [act, hs, arrivals, note, history, reads, withConnection]
  | arrive i => simp [act, arrivals, history, Link.arrive]
  | step =>
    have hnone : arrivals [(Act.step : Act R E)] = [] := rfl
    rw [hnone, List.append_nil]
    show reads (r.step?.getD r).history ++ (r.step?.getD r).link.unread = _
    cases hs : r.link.step? r.clock with
    | none => simp [step?, hs]
    | some done =>
      have hstep : r.step? = some ({ r with link := done.1 }.note (done.2.map .did)) := by
        simp [step?, hs]
      rw [hstep, Option.getD_some, history_note, reads_append, List.append_assoc]
      exact congrArg _ (reads_move (Link.move_of_step? hs))
  | _ => exact (List.append_nil _).symm

/-- What arrived was read, or waits to be read. -/
theorem arrivals_eq (timeout : Nat) (acts : List (Act R E)) :
    arrivals acts = reads (after timeout acts).history ++ (after timeout acts).link.unread := by
  induction acts using List.reverseRecOn with
  | nil => rfl
  | append_singleton acts a ih =>
    rw [after_concat, reads_act, ← ih]
    exact List.filterMap_append

/-! ### All that is promised -/

/-- When the owner is told that a response did not come in time, nothing that has arrived is left to
be read, and the next request is taken. -/
theorem free_of_timeout {l l' : Link R E} {now : Nat} {effects : List (Effect R E)}
    (hopen : ∀ failure, l.outcome = some (.error failure) → failure.kind ≠ .timeout)
    (hs : l.step? now = some (l', effects)) {id milliseconds : Nat}
    (hmem : .failed (.timeout id milliseconds) ∈ effects) :
    l.connection.inbox = [] ∧ l.unread = [] ∧
      ∀ request handler, ∃ c', l'.connection.send request handler = .ok c' := by
  have hmove := Link.move_of_step? hs
  cases hmove with
  | opened => simp at hmem
  | refused _ _ outcome =>
    obtain rfl := Effect.failed.inj (List.mem_singleton.1 hmem)
    exact absurd rfl (hopen _ outcome)
  | stopped => simp at hmem
  | finished => simp at hmem
  | wrote _ step => cases step <;> simp at hmem
  | @talked t _ _ phase _ talk =>
    have hkind := Link.kind_of_failed phase talk hs _ hmem
    obtain ⟨hinbox, hunread, -⟩ := hkind.resolve_left fun hne => hne rfl
    refine ⟨hinbox, hunread, fun request handler => ?_⟩
    cases talk with
    | expired => exact ⟨_, rfl⟩
    | read _ unread => simp [hunread] at unread
    | answered _ unread => simp [hunread] at unread
    | failed _ unread => simp [hunread] at unread
    | subscribed inbox => simp [hinbox] at inbox
    | wrote inbox => simp [hinbox] at inbox
    | givenUp inbox => simp [hinbox] at inbox
    | unwritable inbox => simp [hinbox] at inbox

/-- What a connection does that has nothing left to take and to read. -/
theorem step?_of_slot {l : Link R E} (now : Nat) {p : Pending R}
    (hp : l.connection.slot? = some p) (hc : l.connection.cancelled = false)
    (hi : l.connection.inbox = []) (hu : l.unread = []) :
    (now < p.deadline → l.step? now = none) ∧
      (p.deadline ≤ now → ∃ l', l.step? now = some (l',
        [.failed (.timeout p.callbackId (min l.connection.timeout longestReport)),
          .dropped p.handler])) := by
  unfold slot? at hp
  split at hp
  · rename_i t ht
    constructor
    · intro hlt
      refine (Link.step?_eq_none_of_talking ht hc).2 ⟨hi, hu, ?_⟩
      simp [Link.isDue, hp, hlt]
    · intro hle
      simp only [Link.step?, ht, hc, Bool.false_eq_true, if_false, Link.talkStep?, hi, hu,
        Link.isDue, hp, hle, decide_true, if_true, expire, Link.after]
      exact ⟨_, rfl⟩
  · cases hp

/-- What holds of the requests that were accepted in a run. -/
structure OneOutcomeEach (timeout : Nat) (acts : List (Act R E)) (r : Run R E) : Prop where
  /-- The requests that were accepted first have come to their end, each once and in the order in
  which they were accepted. The connection has the others. -/
  accounts : accepted r.history =
    (endings r.history).map Prod.fst ++ r.link.connection.outstanding
  /-- When the connection has ended, all requests have come to their end. -/
  ended : r.link.connection.phase = .ended → accepted r.history = (endings r.history).map Prod.fst
  /-- A request that was written and has not come to its end is still being written, or the
  transport has taken its text, and it has a deadline. -/
  written : ∀ now id request handler, (now, .did (.wrote id request handler)) ∈ r.trace →
    id ≤ (endings r.history).length ∨
      (r.link.connection.writing? = some handler ∧ r.link.connection.lastId = id) ∨
      ∃ since, r.link.connection.slot? = some ⟨id, handler, since + timeout⟩ ∧
        (since, .did (.armed id handler)) ∈ r.trace
  /-- When the deadline of a request has passed, it has come to its end as soon as the connection
  has taken what waited for it. -/
  due : ∀ since id handler, (since, .did (.armed id handler)) ∈ r.trace →
    since + timeout ≤ r.clock → id ≤ (endings (r.all (List.replicate
      (r.link.connection.inbox.length + r.link.unread.length + 1) .step)).history).length
  /-- A handler is called with the data of the response that has the number of its request, and what
  is told not to have come in time is the response to a request that awaits it until its deadline or
  longer. -/
  lawful : Throughout (Event.Lawful timeout (· ≤ ·)) r.trace
  /-- It is told at the deadline itself when time does not pass by deadlines. -/
  onTime : Prompt timeout acts → Throughout (Event.Lawful timeout (· = ·)) r.trace
  /-- A request whose response did not come in time has come to its end without a call. -/
  timedOut : ∀ id ∈ timeouts r.history,
    0 < id ∧ ∃ handler, (endings r.history)[id - 1]? = some (handler, none)
  /-- The owner is told so once. -/
  once : (timeouts r.history).Nodup
  /-- Others come to their end without a call only when the connection fails or is closed. -/
  lost : ∀ k handler, (endings r.history)[k]? = some (handler, none) →
    k + 1 ∈ timeouts r.history ∨ r.link.connection.IsOver ∧
      (.close ∈ acts ∨ ∃ failure ∈ failures r.history, failure.kind ≠ .timeout)
  /-- A connection that has nothing left to take and to read waits until the deadline of a request,
  and then tells that the response did not come in time. -/
  fires : ∀ since id handler, (since, .did (.armed id handler)) ∈ r.trace →
    (endings r.history).length < id → r.link.connection.cancelled = false →
    r.link.connection.inbox = [] → r.link.unread = [] →
    (r.clock < since + timeout → r.link.step? r.clock = none) ∧
      (since + timeout ≤ r.clock → ∃ l', r.link.step? r.clock = some (l',
        [.failed (.timeout id (min timeout longestReport)), .dropped handler]))
  /-- What arrived was read, or waits to be read. -/
  readable : arrivals acts = reads r.history ++ r.link.unread
  /-- When the owner is told that a response did not come in time, nothing that has arrived is left
  to be read, and the next request is taken. -/
  free : ∀ l' effects id milliseconds, r.link.step? r.clock = some (l', effects) →
    .failed (.timeout id milliseconds) ∈ effects →
    r.link.connection.inbox = [] ∧ r.link.unread = [] ∧
      ∀ request handler, ∃ c', l'.connection.send request handler = .ok c'
  /-- No handler is called with a response that comes after its request was told to be late. -/
  late : ∀ before now frame id data later,
    r.trace = before ++ (now, .did (.read (.text frame))) :: later →
    Frame.response? frame = some (id, data) → id ∈ timeouts (before.map Prod.snd) →
    ∀ now' handler data', later.head? ≠ some (now', .did (.answered handler data'))

theorem not_answered_of_late {trace before later : List (Nat × Event R E)} {now : Nat}
    {frame : String} {id : Nat} {data : Json}
    (h : Throughout (Event.Lawful timeout late) trace)
    (htrace : trace = before ++ (now, .did (.read (.text frame))) :: later)
    (hr : Frame.response? frame = some (id, data)) (hid : id ∈ timeouts (before.map Prod.snd))
    (now' : Nat) (handler : R) (data' : Json) :
    later.head? ≠ some (now', .did (.answered handler data')) := by
  intro hhead
  cases later with
  | nil => cases hhead
  | cons e later =>
    obtain rfl := Option.some.inj hhead
    rw [htrace, List.append_cons] at h
    obtain ⟨earlier, _, frame', id', _, heq, hr', -, hnot⟩ := h.at
    obtain ⟨rfl, hread⟩ := List.append_inj' heq rfl
    cases hread
    rw [hr] at hr'
    cases hr'
    exact hnot hid

/-- **Every request that a connection accepts has one outcome.** Its handler is called with the
data of the response that carries its number; or the owner is told that the response did not come
in time, and the request is given up; or it is given up because the connection has failed or was
closed. The way to the server does not end because a response did not come in time, since no
request is sent before it has ended. -/
theorem requests_end_once (timeout : Nat) (acts : List (Act R E))
    (hopen : ∀ failure, .offer (.error failure) ∈ acts → failure.kind ≠ .timeout) :
    OneOutcomeEach timeout acts (after timeout acts) := by
  have hbooks : (after timeout acts).Books timeout (· ≤ ·) :=
    books_after timeout hopen fun _ _ _ _ _ hle => hle
  have hoffer : ∀ failure, (after timeout acts).link.outcome = some (.error failure) →
      failure.kind ≠ .timeout :=
    fun failure ho => hopen failure (offer_of_outcome timeout acts ho)
  exact {
    accounts := hbooks.accounts
    ended := fun hphase => by
      rw [hbooks.accounts, outstanding_of_ended timeout acts hphase, List.append_nil]
    written := hbooks.written
    due := fun since id handler harmed hdue => ends_within _ hopen harmed hdue (Nat.le_refl _)
    lawful := hbooks.lawful
    onTime := fun hprompt => by
      refine (books_after timeout hopen fun before a hp p hslot hdue => ?_).lawful
      refine Nat.le_antisymm hdue ?_
      exact Prompt.clock_le (hprompt.of_prefix ((List.prefix_append _ _).trans hp)) hslot
    timedOut := hbooks.timedOut
    once := hbooks.once
    lost := fun k handler hk => by
      refine (hbooks.lost k handler hk).imp_right fun hover => ⟨hover, ?_⟩
      cases reports_after timeout acts with
      | working busy => exact absurd hover busy
      | failed _ troubled =>
        obtain ⟨_, failure, heq, -, hkind⟩ := troubled.failures_eq
        exact .inr ⟨failure, by rw [heq]; simp, hkind⟩
      | closed _ reason =>
        rcases reason with hc | ⟨failure, ho, hkind⟩
        · left
          by_contra hclose
          rw [cancelled_after timeout acts hclose] at hc
          cases hc
        · exact absurd hkind (hoffer failure ho)
    fires := fun since id handler harmed hlt hc hi hu => by
      rcases hbooks.armed since id handler harmed with hle | hslot
      · omega
      · have hfires := step?_of_slot (after timeout acts).clock hslot hc hi hu
        rwa [hbooks.limit] at hfires
    readable := arrivals_eq timeout acts
    free := fun _ _ _ _ hs hmem =>
      free_of_timeout hoffer hs hmem
    late := fun _ _ _ _ _ _ htrace hr hid =>
      not_answered_of_late hbooks.lawful htrace hr hid }

/-- A request that is answered too late, and one that is answered in time. -/
def sampleLateAnswer : List (Act Nat Nat) :=
  [.connect, .offer (.ok ()), .step, .send (.named "listPrinter") 1, .step, .step, .elapse 500,
    .step, .send (.named "listModel") 2, .step, .step,
    .arrive (.text "\x7b\x22callback_id\x22:1,\x22data\x22:\x7b\x7d\x7d"), .step,
    .arrive (.text "\x7b\x22callback_id\x22:2,\x22data\x22:\x7b\x7d\x7d"), .step]

theorem sampleLateAnswer_passed_over :
    OneOutcomeEach 500 sampleLateAnswer (after 500 sampleLateAnswer) ∧
      Throughout (Event.Lawful 500 (· = ·)) (after 500 sampleLateAnswer).trace ∧
      timeouts (after 500 sampleLateAnswer).history = [1] ∧
      endings (after 500 sampleLateAnswer).history = [(1, none), (2, some (.object []))] := by
  have hopen : ∀ failure, .offer (.error failure) ∈ sampleLateAnswer → failure.kind ≠ .timeout := by
    simp [sampleLateAnswer]
  have honce := requests_end_once 500 sampleLateAnswer hopen
  -- Time passes once, up to the deadline of the first request.
  have hprompt : Prompt 500 sampleLateAnswer := by
    have hfront : Prompt 500 (sampleLateAnswer.take 6) := by
      refine throughout_nil.append _ fun a ha before milliseconds heq => ?_
      rw [heq] at ha
      simp at ha
    have hslot : (after 500 (sampleLateAnswer.take 6)).link.connection.slot? =
        some ⟨1, 1, 500⟩ := by
      decide +kernel
    have hclock : (after 500 (sampleLateAnswer.take 6)).clock = 0 := by decide +kernel
    refine (hfront.concat (e := .elapse 500) ?_).append (sampleLateAnswer.drop 7) ?_
    · rintro _ ⟨⟩ p hp
      rw [hslot] at hp
      cases hp
      simp [hclock]
    · intro a ha before milliseconds heq
      rw [heq] at ha
      simp [sampleLateAnswer] at ha
  exact ⟨honce, honce.onTime hprompt, by decide +kernel, by decide +kernel⟩

end Run

end Connection

end PrintClient
