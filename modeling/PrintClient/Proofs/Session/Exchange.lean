import PrintClient.Proofs.Session.Stances

/-!
# What goes on between a session and its connections

The invariant behind all that is said about requests and responses. It holds in every run, whatever
callers, the transport and the clock do.

* `IsTurn`, `Lawful`: what must have happened before a request is written or answered;
* `World.Settled`: what holds of the session and the record alone;
* `World.Exchange`: the same, and the session and the connection that it holds are in a stance;
* `Exchange.step`, `Exchange.hear`, `exchange_run`: every act keeps it.
-/

namespace PrintClient.Session

open Connection (Effect Talk Pending)
open scoped List

variable {H : Type}

/-- The request is the first of those taken that has not come to its end. -/
def IsTurn (l : List (Event H)) (q : Queued H) : Prop := (taken l)[(endings l).length]? = some q

theorem IsTurn.isLogin {l : List (Event H)} {q : Queued H} (h : IsTurn l q) :
    q.isLogin = false := by
  obtain ⟨e, -, he⟩ := List.mem_filterMap.1 (List.mem_of_getElem? h)
  cases e <;> simp only [Event.taken?, Option.some.injEq, reduceCtorEq] at he
  subst he
  rfl

theorem Conserved.isTurn {s : Session H} {l : List (Event H)} {q : Queued H} (h : Conserved s l)
    (hi : s.inFlight = some q) (hl : q.isLogin = false) : IsTurn l q := by
  rw [IsTurn, h.taken, ← h.length_finished, List.getElem?_append_right (Nat.le_refl _),
    Nat.sub_self]
  simp [outstanding, callerEntries, hi, hl]

theorem Conserved.endings_le {s : Session H} {l : List (Event H)} (h : Conserved s l) :
    (Session.endings l).length ≤ (Session.taken l).length := by
  rw [← h.length_finished, h.taken, List.length_append]
  exact Nat.le_add_right _ _

/-- What must have happened before an event; `key` is the API key of the session. -/
def Lawful (key : String) (before : List (Event H)) : Event H → Prop
  | .wrote g id q => id = (writesOn g before).length + 1 ∧
      (id = 1 ∧ q = ⟨.login key, .login⟩ ∨ 1 < id ∧ LoggedIn before g ∧ IsTurn before q)
  | .replied handler data => ∃ g id request, Answered before g id ⟨request, .caller handler⟩ data ∧
      IsTurn before ⟨request, .caller handler⟩
  | _ => True

theorem Event.IsQuiet.lawful {e : Event H} (h : e.IsQuiet) (key : String)
    (before : List (Event H)) : Lawful key before e := by
  cases e with
  | wrote => exact h.elim
  | replied => exact h.elim
  | _ => trivial

namespace World

/-- What holds of the session and of the record. -/
structure Settled (key : String) (w : World H) : Prop where
  apiKey : w.session.endpoint.apiKey = key
  coherent : Coherent w.session
  lawful : Throughout (Lawful key) w.history
  loggedIn : ∀ g, w.session.held = some g → w.session.state = .connected → LoggedIn w.history g
  written : w.stage ≠ .ended →
    callerWrites w.history <+ finished w.history ++ callerEntries w.session.inFlight.toList

/-- The session and the connection that it holds are in a stance. -/
structure Exchange (key : String) (w : World H) : Prop extends Settled key w where
  stance : ∀ g k, w.session.held = some g → w.link? g = some k →
    Stance w.session w.history g k.connection (news g w.notices)

variable {w w' : World H} {key : String} {m : List (Event H)}

/-- Steps that neither write nor end a request. -/
theorem Settled.mono (h : w.Settled key) (hc : w.stage ≠ .ended → Conserved w.session w.history)
    (hh : w'.history = w.history ++ m) (hm : ∀ e ∈ m, e.IsQuiet)
    (hendpoint : w'.session.endpoint = w.session.endpoint) (hcoherent : Coherent w'.session)
    (hlogin : ∀ g, w'.session.held = some g → w'.session.state = .connected → LoggedIn w.history g)
    (hinFlight : callerEntries w'.session.inFlight.toList = callerEntries w.session.inFlight.toList)
    (hstage : w'.stage ≠ .ended → w.stage ≠ .ended) : w'.Settled key where
  apiKey := by rw [hendpoint, h.apiKey]
  coherent := hcoherent
  lawful := by
    rw [hh]
    exact h.lawful.append m fun e he before => (hm e he).lawful key before
  loggedIn := by
    intro g hg hs
    rw [hh]
    exact (hlogin g hg hs).append m
  written := by
    intro hne
    have hne := hstage hne
    rw [hh, callerWrites_append, callerWrites_of_quiet hm, List.append_nil, hinFlight,
      finished_append (hc hne).endings_le (endings_of_quiet hm)]
    exact h.written hne

/-- Handing a request over changes nothing that is recorded. -/
theorem Settled.advance (h : w.Settled key) : w.advance.Settled key := by
  have hcoherent := h.coherent.advance
  rcases w.advance_cases with hw | ⟨g, k, q, rest, hi, hh, -, -, -, hw⟩ <;> rw [hw] at hcoherent ⊢
  · exact h
  · refine ⟨h.apiKey, hcoherent, h.lawful, h.loggedIn, fun hne => ?_⟩
    have hwritten := h.written hne
    rw [hi] at hwritten
    exact hwritten.trans (List.append_sublist_append_left _ |>.2 (List.nil_sublist _))

theorem held_advance (w : World H) : w.advance.session.held = w.session.held := by
  rcases w.advance_cases with h | ⟨g, l, q, rest, -, -, -, -, -, h⟩ <;> rw [h]

/-- The link that was there before a request was handed over, or not. -/
theorem link?_of_advance {g : Nat} {k' : SessionLink H} (h : w.advance.link? g = some k') :
    ∃ k, w.link? g = some k ∧ k'.connection.phase = k.connection.phase := by
  rcases w.advance_cases with hw | ⟨g', k, q, rest, -, -, -, -, hk, hw⟩
  · rw [hw] at h
    exact ⟨k', h, rfl⟩
  · rw [hw] at h
    have h : (w.setLink g' _).link? g = some k' := h
    rw [link?_setLink] at h
    split at h
    · rename_i hg
      cases h
      exact ⟨k, by rw [hg]; exact hk, rfl⟩
    · exact ⟨k', h, rfl⟩

/-- A free connection takes what is next in the queue, or there is nothing to do. -/
theorem Settled.stance_advance_of_free (h : w.Settled key) (hne : w.stage ≠ .ended) {g : Nat}
    {k k' : SessionLink H} {t : Talk (Reply H) String} (hi : w.session.inFlight = none)
    (hg : w.session.held = some g) (hk : w.link? g = some k)
    (hk' : w.advance.link? g = some k') (hf : k.connection.IsFree t)
    (hn : (writesOn g w.history).length = t.lastId)
    (hs : w.session.state = .awaitingLogin ∧ t.lastId = 0 ∨
      w.session.state = .connected ∧ 0 < t.lastId) :
    Stance w.advance.session w.history g k'.connection [] := by
  have hcoherent := h.coherent
  cases hq : w.session.queue with
  | nil =>
    rw [advance_of_queue_eq_nil hq] at hk' ⊢
    obtain rfl := Option.some.inj (hk'.symm.trans hk)
    rcases hs with ⟨hs, -⟩ | ⟨hs, hpos⟩
    · cases hcoherent with
      | apart state => rcases state with state | state <;> rw [hs] at state <;> cases state
      | greeting _ inFlight => rw [hi] at inFlight; cases inFlight
      | stalled _ _ queue => rw [hq] at queue; cases queue
      | connected state => rw [hs] at state; cases state
    · exact .idle hs hi hq hf hn hpos
  | cons q rest =>
    have hm : w.session.maySend q = true := (hcoherent.maySend hi hq).2 (hs.imp And.left And.left)
    rw [advance_of_isFree hi hg hq hm hk hf] at hk' ⊢
    have hk' : (w.setLink g _).link? g = some k' := hk'
    rw [link?_setLink, if_pos rfl] at hk'
    cases hk'
    refine .handed rfl hf.phase hf.pending ?_ hn ?_ ?_
    · have hrequests := hf.requests
      rw [Connection.requests] at hrequests
      rw [Connection.requests, List.filterMap_append, hrequests]
      rfl
    · rw [hcoherent.isLogin_head hi hq]
      rcases hs with ⟨hs, hzero⟩ | ⟨hs, hpos⟩
      · simp [hs, hzero]
      · simp [hs, Nat.ne_of_gt hpos]
    · have hwritten := h.written hne
      rw [hi] at hwritten
      exact (List.append_nil _ ▸ hwritten :)

/-- While a request is on its way, and before the connection is open, the queue waits. -/
theorem advance_eq_self (hc : Coherent w.session)
    (h : w.session.inFlight ≠ none ∨ w.session.state = .connecting) : w.advance = w := by
  rcases w.advance_cases with heq | ⟨_, _, q, rest, hi, -, hq, hm, -⟩
  · exact heq
  · have hmay := (hc.maySend hi hq).1 hm
    rcases h with h | h
    · exact absurd hi h
    · rcases hmay with hmay | hmay <;> rw [h] at hmay <;> cases hmay

/-- **The next request is handed to a free connection; one that has failed has told so.** -/
theorem Settled.exchange_advance (h : w.Settled key) (hne : w.stage ≠ .ended)
    (hp : ∀ g k, w.session.held = some g → w.link? g = some k →
      Poised w.session w.history g k.connection (news g w.notices)) : w.advance.Exchange key := by
  refine ⟨h.advance, fun g k' hg hk' => ?_⟩
  rw [held_advance] at hg
  rw [history_advance]
  have hnotices : w.advance.notices = w.notices := by
    rcases w.advance_cases with hw | ⟨_, _, _, _, -, -, -, -, -, hw⟩ <;> rw [hw]
    rfl
  obtain ⟨k, hk, hphase⟩ := link?_of_advance hk'
  have hpoised := hp g k hg hk
  rw [hnotices]
  generalize news g w.notices = ns at hpoised ⊢
  cases hpoised with
  | free inFlight free numbers state =>
    exact h.stance_advance_of_free hne inFlight hg hk hk' free numbers state
  | broken isOver failures =>
    refine .broken ?_ failures
    rw [Connection.IsOver, hphase]
    exact isOver

/-- Steps that are not about the connection that is held and its requests. -/
theorem Exchange.mono (h : w.Exchange key) (hg : w.Generations)
    (hc : w.stage ≠ .ended → Conserved w.session w.history) (hh : w'.history = w.history ++ m)
    (hm : ∀ e ∈ m, e.IsQuiet) (hendpoint : w'.session.endpoint = w.session.endpoint)
    (hheld : w'.session.held = w.session.held) (hstate : w'.session.state = w.session.state)
    (hinFlight : w'.session.inFlight = w.session.inFlight)
    (hqueue : w'.session.queue = w.session.queue) (hstage : w'.stage = w.stage)
    (hlinks : ∀ g k', w.session.held = some g → w'.link? g = some k' →
      ∃ k, w.link? g = some k ∧ k.connection.Alike k'.connection)
    (hnews : ∀ g, w.session.held = some g → news g w'.notices = news g w.notices) :
    w'.Exchange key := by
  have hcoherent := h.coherent.congr hendpoint hstate hinFlight hqueue
  refine ⟨h.toSettled.mono hc hh hm hendpoint hcoherent ?_ (by rw [hinFlight])
    (by rw [hstage]; exact id), ?_⟩
  · intro g hg hs
    rw [hheld] at hg
    rw [hstate] at hs
    exact h.loggedIn g hg hs
  · intro g k' hheld' hk'
    rw [hheld] at hheld'
    obtain ⟨k, hk, ha⟩ := hlinks g k' hheld' hk'
    have hrunning : w.stage = .running := hg.running (by simp [hheld'])
    have hconserved := hc (by simp [hrunning])
    rw [hh, hnews g hheld']
    exact (h.stance g k hheld' hk).mono hconserved.endings_le hm hstate hinFlight
      (fun _ _ => hqueue) ha

/-! ### Attempts and teardowns -/

theorem requests_freshConnection (s : Session H) : (freshConnection s).requests = [] := by
  rw [Connection.requests, List.filterMap_eq_nil_iff]
  intro command hmem
  obtain ⟨entry, -, rfl⟩ := List.mem_map.1 hmem
  rfl

/-- A new connection is on its way to the server. -/
theorem Settled.connect (h : w.Settled key) (hc : w.stage ≠ .ended → Conserved w.session w.history)
    (ha : w.AllClosed) (hs : w.session.state = .disconnected) : w.connect.Exchange key := by
  obtain ⟨hi, hq⟩ := h.coherent.apart_of_state (.inl hs)
  have heq := w.connect_eq
  have hhistory : w.connect.history =
      w.history ++ [.entered .connecting, .attempted (w.session.generation + 1)] := by
    rw [heq, history_note]
    rfl
  refine ⟨h.mono hc hhistory (by simp) rfl (.apart (.inr rfl) hi hq) ?_ rfl id, ?_⟩
  · intro g hg hs'
    cases hs'
  · rintro g k ⟨⟩ hk
    rw [ha.link?_connect, if_pos rfl] at hk
    cases hk
    -- All notices in the channel are older.
    have hnews : news (w.session.generation + 1) w.connect.notices = [] := by
      refine news_of_ne fun p hp => ?_
      have := ha.notices p hp
      omega
    rw [hnews]
    refine .opening rfl rfl (requests_freshConnection _) rfl ?_
    rw [hhistory, writesOn_append, ha.writes _ (Nat.lt_succ_self _)]
    rfl

/-- A teardown gives up the request on its way. -/
theorem exchange_fail (hkey : w.session.endpoint.apiKey = key)
    (hl : Throughout (Lawful key) w.history)
    (hw : callerWrites w.history <+ finished w.history ++ callerEntries w.session.inFlight.toList)
    (hc : Conserved w.session w.history) (hheld : w.session.held ≠ none) (failure : Failure) :
    (w.fail failure).Exchange key := by
  have ha := accounts_fail rfl rfl hheld rfl rfl failure
  have hfinished := (hc.step ha.outstanding ha.endings ha.callers).1
  obtain ⟨links, -, hfail⟩ := w.fail_eq failure
  have hhistory := ha.history
  rw [hfail] at hhistory ⊢
  refine ⟨⟨hkey, .tornDown _ _, ?_, fun g hg => ?_, fun _ => ?_⟩, fun g k hg => ?_⟩
  · rw [hhistory]
    refine hl.append _ fun e he before => ?_
    rw [teardown, List.mem_append] at he
    rcases he with he | he
    · obtain ⟨handler, -, rfl⟩ := List.mem_map.1 he
      trivial
    · exact (isQuiet_hangUp _ failure e he).lawful key before
  · cases hg
  · rw [hhistory, callerWrites_append, callerWrites_teardown, List.append_nil, hfinished]
    exact (List.append_nil _).symm ▸ hw
  · cases hg

theorem Exchange.stop (h : w.Exchange key) : w.stop.Exchange key := by
  obtain ⟨links, -, hstop⟩ := w.stop_eq
  rw [hstop]
  refine ⟨⟨h.apiKey, .ended _, ?_, fun g hg => ?_, fun hne => ?_⟩, fun g k hg => ?_⟩
  · rw [history_note]
    refine h.lawful.append _ fun e he before => ?_
    rw [farewell, List.mem_append, List.mem_cons] at he
    rcases he with he | rfl | he
    · obtain ⟨handler, -, rfl⟩ := List.mem_map.1 he
      trivial
    · trivial
    · obtain ⟨handler, -, rfl⟩ := List.mem_map.1 he
      trivial
  · cases hg
  · exact absurd rfl hne
  · cases hg

/-! ### Notices -/

/-- The connection that is held, with its link. -/
theorem Generations.link?_of_held (hg : w.Generations) {g : Nat} (hheld : w.session.held = some g) :
    ∃ k, w.link? g = some k ∧ k.connection.cancelled = false := by
  obtain ⟨k, hk, hc⟩ := Option.map_eq_some_iff.1 (hg.held g hheld).2
  exact ⟨k, hk, hc⟩

section Heard

variable {g : Nat} {k : SessionLink H} {ns : List Notice}

/-- The session hears that the connection is open. -/
theorem Settled.greet (h : w.Settled key) (hc : Conserved w.session w.history)
    (hne : w.stage ≠ .ended) (hheld : w.session.held = some g) (hk : w.link? g = some k)
    (hst : Stance w.session w.history g k.connection (.handshaked :: news g w.notices)) :
    w.greet.Exchange key := by
  have hs := hst.state_of_handshaked
  obtain ⟨hi, -⟩ := h.coherent.apart_of_state (.inr hs)
  rw [greet_eq]
  refine Settled.exchange_advance ?_ hne fun g' k' hg' hk' => ?_
  · exact h.mono (fun _ => hc) (history_note _ _) (by simp) rfl (h.coherent.greet hs)
      (fun _ _ hs' => by cases hs') rfl id
  · obtain rfl := Option.some.inj (hheld.symm.trans hg')
    obtain rfl := Option.some.inj (hk.symm.trans hk')
    refine hst.poised_of_handshaked hi rfl ?_
    rw [history_note, writesOn_append]
    exact List.append_nil _

section Completed

variable {data : Json} (hheld : w.session.held = some g) (hk : w.link? g = some k)
  (hst : Stance w.session w.history g k.connection (.completed data :: news g w.notices))

include hheld hk hst

/-- The connection on which the request was answered is ready for the next one. -/
theorem poised_completed {s' : Session H} {l' : List (Event H)} (hi : s'.inFlight = none)
    (hs : s'.state = .connected) (hw : writesOn g l' = writesOn g w.history) (g' : Nat)
    (k' : SessionLink H) (hg' : w.session.held = some g') (hk' : w.link? g' = some k') :
    Poised s' l' g' k'.connection (news g' w.notices) := by
  obtain rfl := Option.some.inj (hheld.symm.trans hg')
  obtain rfl := Option.some.inj (hk.symm.trans hk')
  exact hst.poised_of_completed hi hs hw

variable (h : w.Settled key) (hc : Conserved w.session w.history) (hne : w.stage ≠ .ended)

include h hc hne

/-- The login was accepted. -/
theorem exchange_accepted {q : Queued H} (hi : w.session.inFlight = some q) (hl : q.reply = .login)
    (hanswered : Answered w.history g 1 q data) (hok : checkOk q.request.action data = .ok ()) :
    (w.complete data).Exchange key := by
  obtain ⟨request, reply⟩ := q
  obtain rfl : reply = .login := hl
  rw [complete_of_accepted hi data rfl hok]
  have hquiet : ∀ e ∈ (.entered .connected :: w.session.onLogin.map .loggedIn : List (Event H)),
      e.IsQuiet := by
    simp
  refine Settled.exchange_advance ?_ hne (poised_completed hheld hk hst rfl rfl ?_)
  · refine h.mono (fun _ => hc) (history_note _ _) hquiet rfl (h.coherent.loggedIn hi rfl) ?_
      (by rw [hi]; rfl) id
    intro g' hg' _
    obtain rfl := Option.some.inj (hheld.symm.trans hg')
    exact hanswered.loggedIn hok
  · rw [history_note, writesOn_append, writesOn_of_quiet hquiet]
    exact List.append_nil _

omit hk hst hne in
/-- The login was refused, so the connection is torn down. -/
theorem exchange_refused {q : Queued H} (hi : w.session.inFlight = some q) (hl : q.reply = .login)
    (hwritten : callerWrites w.history <+
      finished w.history ++ callerEntries w.session.inFlight.toList)
    {failure : Failure} (herr : checkOk q.request.action data = .error failure) :
    (w.complete data).Exchange key := by
  obtain ⟨request, reply⟩ := q
  obtain rfl : reply = .login := hl
  rw [complete_of_refused hi data rfl herr]
  have houtstanding : outstanding { w.session with inFlight := none } = outstanding w.session := by
    simp [outstanding, hi, callerEntries, Queued.isLogin]
  have hconserved : Conserved { w.session with inFlight := none } w.history :=
    ⟨by rw [houtstanding, hc.taken], hc.endings⟩
  -- The login is none of the callers' requests, so nothing of theirs was on its way.
  have hnone : callerEntries (none : Option (Queued H)).toList =
      callerEntries w.session.inFlight.toList := by
    rw [hi]
    rfl
  rw [← hnone] at hwritten
  exact exchange_fail (w := { w with session := { w.session with inFlight := none } }) h.apiKey
    h.lawful hwritten hconserved (by simp [hheld]) failure

/-- A caller's request was answered. -/
theorem exchange_replied {q : Queued H} {handler : H} {n : Nat} (hi : w.session.inFlight = some q)
    (hr : q.reply = .caller handler) (hanswered : Answered w.history g n q data) :
    (w.complete data).Exchange key := by
  obtain ⟨request, reply⟩ := q
  obtain rfl : reply = .caller handler := hr
  have hout : outstanding w.session ++ taken [(.replied handler data : Event H)] =
      [⟨request, .caller handler⟩] ++ outstanding { w.session with inFlight := none } := by
    show outstanding w.session ++ [] = _
    simp [outstanding, hi]
  have hfinished := (hc.step hout rfl rfl).1
  have hwritten := h.written hne
  rw [complete_of_caller hi data rfl]
  refine Settled.exchange_advance ⟨h.apiKey, h.coherent.answered hi rfl, ?_, ?_, fun _ => ?_⟩ hne
    (poised_completed hheld hk hst rfl (h.coherent.of_caller hi rfl).1 ?_)
  · rw [history_note]
    exact h.lawful.concat ⟨g, n, request, hanswered, hc.isTurn hi rfl⟩
  · intro g' hg' hs'
    rw [history_note]
    exact (h.loggedIn g' hg' hs').append _
  · rw [hi] at hwritten
    rw [history_note, callerWrites_append]
    show callerWrites w.history ++ [] <+ finished (w.history ++ [.replied handler data]) ++ []
    rw [hfinished, List.append_nil, List.append_nil]
    exact hwritten
  · rw [history_note, writesOn_append]
    exact List.append_nil _

/-- The session hears of the response to the request on its way. -/
theorem exchange_complete : (w.complete data).Exchange key := by
  obtain ⟨q, n, hi, hlogin, hanswered⟩ := hst.answered_of_completed
  cases hr : q.reply with
  | login =>
    cases hok : checkOk q.request.action data with
    | ok =>
      rw [hlogin.1 (by simp [Queued.isLogin, hr])] at hanswered
      exact exchange_accepted hheld hk hst h hc hne hi hr hanswered hok
    | error failure => exact exchange_refused hheld h hc hi hr (h.written hne) hok
  | caller handler => exact exchange_replied hheld hk hst h hc hne hi hr hanswered

end Completed

end Heard

/-! ### Commands -/

theorem Exchange.obey_submit (h : w.Exchange key) (hg : w.Generations)
    (hc : Conserved w.session w.history) (hne : w.stage ≠ .ended) (request : Request)
    (handler : H) :
    (w.obey (.submit request handler)).Exchange key := by
  have hsettled : ({ w with session := w.session.enqueue request handler }.note
      [.taken request handler]).Settled key :=
    h.toSettled.mono (fun _ => hc) (history_note _ _) (by simp) rfl
      (h.coherent.enqueue request handler) h.loggedIn rfl id
  have hw : ∀ g, writesOn g (w.history ++ [.taken request handler]) = writesOn g w.history := by
    intro g
    rw [writesOn_append]
    exact List.append_nil _
  simp only [obey]
  cases hheld : w.session.held with
  | none =>
    refine hsettled.exchange_advance hne fun g k hg' => ?_
    rw [show w.session.held = some g from hg'] at hheld
    cases hheld
  | some g =>
    obtain ⟨k, hk, -⟩ := hg.link?_of_held hheld
    have hst := h.stance g k hheld hk
    have hor : Poised (w.session.enqueue request handler) (w.history ++ [.taken request handler])
        g k.connection (news g w.notices) ∨
          w.session.inFlight ≠ none ∨ w.session.state = .connecting :=
      hst.poised_or rfl rfl (hw g)
    rcases hor with hp | hp
    · refine hsettled.exchange_advance hne fun g' k' hg' hk' => ?_
      obtain rfl := Option.some.inj (hheld.symm.trans hg')
      obtain rfl := Option.some.inj (hk.symm.trans hk')
      rw [history_note]
      exact hp
    · rw [advance_eq_self hsettled.coherent hp]
      refine ⟨hsettled, fun g' k' hg' hk' => ?_⟩
      obtain rfl := Option.some.inj (hheld.symm.trans hg')
      obtain rfl := Option.some.inj (hk.symm.trans hk')
      rw [history_note]
      refine hst.mono hc.endings_le (by simp) rfl rfl (fun hs hi => ?_) (.refl _)
      rcases hp with hp | hp
      · exact absurd hi hp
      · rw [hs] at hp
        cases hp

/-- Commands that hand in no request. -/
theorem Exchange.of_handlers (h : w.Exchange key) (hg : w.Generations)
    (hc : Conserved w.session w.history) {subscriptions : List (String × List H)}
    {onDisconnect onLogin : List H} {links : List (Nat × SessionLink H)}
    (hlinks : ∀ g k', links.lookup g = some k' →
      ∃ k, w.link? g = some k ∧ k.connection.Alike k'.connection) :
    ({ w with
        links
        session := { w.session with subscriptions, onDisconnect, onLogin } } :
      World H).Exchange key :=
  h.mono hg (fun _ => hc) (List.append_nil _).symm (by simp) rfl rfl rfl rfl rfl rfl
    (fun g k' _ hk' => hlinks g k' hk') (fun _ _ => rfl)

theorem Exchange.obey (h : w.Exchange key) (hg : w.Generations) (hc : Conserved w.session w.history)
    (hne : w.stage ≠ .ended) (command : Command H) : (w.obey command).Exchange key := by
  have hsame : ∀ g k', w.links.lookup g = some k' →
      ∃ k, w.link? g = some k ∧ k.connection.Alike k'.connection :=
    fun g k' hk' => ⟨k', hk', .refl _⟩
  cases command with
  | submit request handler => exact h.obey_submit hg hc hne request handler
  | subscribe event handler =>
    obtain ⟨links, hl, hw⟩ := w.obey_subscribe_eq event handler
    rw [hw]
    refine h.of_handlers hg hc fun g k' hk' => ?_
    rcases hl g with hlookup | hlookup <;> rw [hlookup] at hk'
    · exact hsame g k' hk'
    · obtain ⟨k, hk, rfl⟩ := Option.map_eq_some_iff.1 hk'
      exact ⟨k, hk, k.connection.alike_subscribe event event⟩
  | onDisconnect handler => exact h.of_handlers hg hc hsame
  | onLogin handler => exact h.of_handlers hg hc hsame

/-! ### Steps of the session -/

theorem Exchange.withCommands (h : w.Exchange key) (commands : List (Command H)) :
    ({ w with commands } : World H).Exchange key :=
  ⟨⟨h.apiKey, h.coherent, h.lawful, h.loggedIn, h.written⟩, h.stance⟩

/-- The session hears a notice of the connection that is held. -/
theorem Exchange.heed (h : w.Exchange key) (hg : w.Generations) (hc : Conserved w.session w.history)
    (hne : w.stage ≠ .ended) {notice : Notice} {rest : List (Nat × Notice)}
    (hn : w.notices = (w.session.generation, notice) :: rest) :
    ({ w with notices := rest }.heed notice).Exchange key := by
  have hsettled : ({ w with notices := rest } : World H).Settled key :=
    ⟨h.apiKey, h.coherent, h.lawful, h.loggedIn, h.written⟩
  have hheld : w.session.held ≠ none := hg.held_of_notice hn
  obtain ⟨g, hheld'⟩ := Option.ne_none_iff_exists'.1 hheld
  obtain ⟨k, hk, -⟩ := hg.link?_of_held hheld'
  have hst := h.stance g k hheld' hk
  rw [hn, ← (hg.held g hheld').1] at hst
  cases notice with
  | handshaked =>
    have hnews : news g ((g, .handshaked) :: rest) = .handshaked :: news g rest := by
      simp [news, Notice.isEvent]
    rw [hnews] at hst
    exact Settled.greet hsettled hc hne hheld' hk hst
  | completed data =>
    have hnews : news g ((g, .completed data) :: rest) = .completed data :: news g rest := by
      simp [news, Notice.isEvent]
    rw [hnews] at hst
    exact exchange_complete (w := { w with notices := rest }) hheld' hk hst hsettled hc hne
  | failed failure =>
    exact exchange_fail (w := { w with notices := rest }) h.apiKey h.lawful (h.written hne) hc hheld
      failure
  | event e =>
    refine h.mono hg (fun _ => hc) (history_note _ _) (by simp) rfl rfl rfl rfl rfl rfl
      (fun g' k' _ hk' => ⟨k', hk', .refl _⟩) fun g' hg' => ?_
    rw [hn]
    simp [news, Notice.isEvent, World.heed, note]

theorem Exchange.step (h : w.Exchange key) (hg : w.Generations)
    (hc : w.stage ≠ .ended → Conserved w.session w.history) (hs : w.Step w') : w'.Exchange key := by
  have hne := hs.stage_ne_ended
  cases hs with
  | start stage =>
    have hheld := hg.held_of_starting stage
    have ha := hg.allClosed hheld
    exact Settled.connect (w := { w with stage := .running })
      ⟨h.apiKey, h.coherent, h.lawful, h.loggedIn, fun _ => h.written hne⟩ (fun _ => hc hne)
      ⟨ha.closed, ha.notices, ha.writes⟩ (hg.state.2 hheld)
  | stop => exact h.stop
  | @obey command rest =>
    refine Exchange.obey (h.withCommands rest) ?_ (hc hne) hne command
    exact hg.withSession rfl rfl .rfl rfl
  | heed _ _ notices => exact h.heed hg (hc hne) hne notices
  | skip _ _ notices stale =>
    refine h.mono hg hc (List.append_nil _).symm (by simp) rfl rfl rfl rfl rfl rfl
      (fun g' k' _ hk' => ⟨k', hk', .refl _⟩) fun g' hg' => ?_
    have hold := (hg.held g' hg').1 ▸ stale
    rw [notices]
    simp [news, hold]
  | retry stage _ _ due =>
    have hheld := hg.held_of_isDue due
    have ha := hg.allClosed hheld
    exact Settled.connect (w := { w with session := { w.session with reconnectAt := none } })
      ⟨h.apiKey, h.coherent.congr rfl rfl rfl rfl, h.lawful, h.loggedIn, h.written⟩
      (fun hne => ⟨(hc hne).taken, (hc hne).endings⟩) ⟨ha.closed, ha.notices, ha.writes⟩
      (hg.state.2 hheld)

/-! ### Steps of connections, and acts -/

/-- What the connection that is held writes is lawful. -/
theorem Exchange.settled_record (h : w.Exchange key) (hc : Conserved w.session w.history)
    (hne : w.stage ≠ .ended) {g : Nat} (hheld : w.session.held = some g) {es : List (Event H)}
    (hh : w'.history = w.history ++ es) (hs : w'.session = w.session)
    (hes : Reads g es ∨
      ∃ q, w.session.inFlight = some q ∧ (q.isLogin = true ↔ (writesOn g w.history).length = 0) ∧
        callerWrites w.history <+ finished w.history ∧
        es = [.wrote g ((writesOn g w.history).length + 1) q]) :
    w'.Settled key := by
  refine ⟨by rw [hs, h.apiKey], by rw [hs]; exact h.coherent, ?_, ?_, fun _ => ?_⟩
  · rw [hh]
    rcases hes with hreads | ⟨q, hi, hlogin, -, rfl⟩
    · refine h.lawful.append es fun e he before => ?_
      rcases hreads e he with ⟨id, rfl⟩ | ⟨i, rfl⟩ <;> trivial
    · -- The login is the first request on its connection, and callers' requests are later ones.
      refine h.lawful.concat ⟨rfl, ?_⟩
      cases hq : q.isLogin with
      | true =>
        obtain ⟨-, rfl, -⟩ := h.coherent.of_login hi hq
        exact .inl ⟨by rw [hlogin.1 hq], by rw [loginEntry, h.apiKey]⟩
      | false =>
        have hpos : (writesOn g w.history).length ≠ 0 := fun hzero => by simp [hlogin.2 hzero] at hq
        exact .inr ⟨by omega, h.loggedIn g hheld (h.coherent.of_caller hi hq).1, hc.isTurn hi hq⟩
  · intro g' hg' hs'
    rw [hs] at hg' hs'
    rw [hh]
    exact (h.loggedIn g' hg' hs').append es
  · have hwritten := h.written hne
    rw [hh, hs]
    rcases hes with hreads | ⟨q, hi, -, hunwritten, rfl⟩
    · rwa [callerWrites_append, hreads.callerWrites, List.append_nil,
        finished_append_of_nil hreads.taken hreads.endings]
    · rw [callerWrites_append, finished_append_of_nil rfl rfl, hi]
      refine List.Sublist.append hunwritten ?_
      cases hq : q.isLogin <;> simp [callerWrites, Event.callerWrite?, callerEntries, hq]

/-- A connection that is no longer held writes nothing more, and its session hears nothing of it. -/
theorem Exchange.hear_of_cancelled (h : w.Exchange key) (hg : w.Generations)
    (hc : w.stage ≠ .ended → Conserved w.session w.history) {g : Nat} {k k' : SessionLink H}
    {effects : List (Effect (Reply H) String)} (hheld : w.session.held ≠ some g)
    (hcancelled : k.connection.cancelled = true) (hs : k.step? w.clock = some (k', effects)) :
    ((w.setLink g k').hear g effects).Exchange key := by
  have hsilent := Link.step?_of_cancelled hcancelled hs
  rw [hear_of_silent _ hsilent]
  refine h.mono hg hc (history_note _ _) (isQuiet_record_of_silent hsilent) rfl rfl rfl rfl rfl rfl
    (fun g' k'' hg' hk'' => ?_) fun _ _ => rfl
  have hk'' : (w.setLink g k').link? g' = some k'' := hk''
  rw [link?_setLink, if_neg fun he => hheld (by rw [← he]; exact hg')] at hk''
  exact ⟨k'', hk'', .refl _⟩

theorem Exchange.hear (h : w.Exchange key) (hg : w.Generations)
    (hc : w.stage ≠ .ended → Conserved w.session w.history) {g : Nat} {k k' : SessionLink H}
    {effects : List (Effect (Reply H) String)} (hk : w.link? g = some k)
    (hs : k.step? w.clock = some (k', effects)) :
    ((w.setLink g k').hear g effects).Exchange key := by
  rcases hg.others g k.connection.cancelled (by simp [isClosed?, hk]) with hheld | ⟨hlt, hcancelled⟩
  · have hrunning : w.stage = .running := hg.running (by simp [hheld])
    have hne : w.stage ≠ .ended := by simp [hrunning]
    have hopen : k.connection.cancelled = false := by
      obtain ⟨k₁, hk₁, hc₁⟩ := hg.link?_of_held hheld
      obtain rfl := Option.some.inj (hk.symm.trans hk₁)
      exact hc₁
    have hst := h.stance g k hheld hk
    rcases (w.setLink g k').hear_cases g effects with ⟨hended, -⟩ | ⟨-, hw⟩
    · exact absurd hended hne
    · rw [hw]
      refine ⟨h.settled_record (hc hne) hne hheld (history_note _ _) rfl (hst.recorded hopen hs),
        fun g' k'' hg' hk'' => ?_⟩
      obtain rfl := Option.some.inj (hheld.symm.trans hg')
      have hk'' : (w.setLink g k').link? g = some k'' := hk''
      rw [link?_setLink, if_pos rfl] at hk''
      cases hk''
      have hheard := hst.hear hopen hs
      rw [Stance.Heard] at hheard
      rw [history_note]
      show Stance w.session _ g k'.connection (news g (w.notices ++ _))
      rw [news_append, news_map]
      exact hheard
  · -- A connection that is older than the present generation is not held.
    refine h.hear_of_cancelled hg hc (fun hheld => ?_) hcancelled hs
    have := (hg.held g hheld).1
    omega

theorem Exchange.outside (h : w.Exchange key) (hg : w.Generations)
    (hc : w.stage ≠ .ended → Conserved w.session w.history) (hs : w.SameInside w') :
    w'.Exchange key := by
  obtain ⟨es, he, hq⟩ := hs.history
  have hsession := hs.session
  refine h.mono hg hc he hq (by rw [hsession]) (by rw [hsession]) (by rw [hsession])
    (by rw [hsession]) (by rw [hsession]) hs.stage (fun g k' _ hk' => ?_) fun g _ => by
      rw [hs.notices]
  have hconnections := hs.connections g
  rw [hk'] at hconnections
  obtain ⟨k, hk, hkc⟩ := Option.map_eq_some_iff.1 hconnections.symm
  exact ⟨k, hk, by rw [hkc]; exact .refl _⟩

theorem Exchange.act (h : w.Exchange key) (hg : w.Generations)
    (hc : w.stage ≠ .ended → Conserved w.session w.history) (a : Act H) : (w.act a).Exchange key :=
  w.act_cases a (fun _ hs => h.outside hg hc hs) (fun _ hs => h.step hg hc hs) fun _ _ _ _ hk hs =>
    h.hear hg hc hk hs

theorem exchange_start (setup : Setup H) :
    (start setup.session).Exchange setup.endpoint.apiKey := by
  obtain ⟨subscriptions, hs⟩ := setup.session_eq
  rw [hs]
  refine ⟨⟨rfl, .apart (.inl rfl) rfl (by simp [CallersOnly, start, new]), throughout_nil,
    fun g hg => ?_, fun _ => List.nil_sublist _⟩, fun g k hg => ?_⟩
  · cases hg
  · cases hg

/-- **In every run the session and the connection that it holds stand in one of these ways to each
other.** -/
theorem exchange_run (setup : Setup H) (acts : List (Act H)) :
    (run setup acts).Exchange setup.endpoint.apiKey :=
  run_induction (exchange_start setup) (fun acts a h =>
    h.act (generations_run setup acts) (fun hne => (ledger_run setup acts hne).1) a) acts

/-! ### A short run -/

/-- A session whose callers are told apart by numbers. -/
def sampleSetup : Setup Nat := ⟨⟨"localhost", defaultPort, "key"⟩, .default, [], [], []⟩

/-- The first connection of a session, until the session is logged in. -/
def sampleLogin : List (Act Nat) :=
  [.step, .offer 1 (.ok ()), .linkStep 1, .step, .linkStep 1, .linkStep 1,
    .arrive 1 (.text "\x7b\x22callback_id\x22:1,\x22data\x22:\x7b\x22ok\x22:true\x7d\x7d"),
    .linkStep 1, .step]

example : (run sampleSetup sampleLogin).session.state = .connected := by decide +kernel

end World

end PrintClient.Session
