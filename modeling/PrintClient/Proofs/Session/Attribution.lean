import PrintClient.Proofs.Session.Exchange

/-!
# Responses reach the requests they answer

A connection tells its session only the data of a response, and the session hands them to whatever
request is on its way. That this is always the request that the response answers is a fact about
every run, with any number of connections and any frames.

* `Request.encode_eq`: the number in the text of a request;
* `World.pending?`: the request that awaits its response on a connection;
* `reply_is_first_response`: what a handler is called with, and that other responses change nothing.
-/

namespace PrintClient

/-- The text of a request ends with the number that it was written under. -/
theorem Request.encode_eq (r : Request) (n : Nat) :
    ∃ members, r.encode n = members ++ ",\x22callback_id\x22:" ++ toString n ++ "\x7d" := by
  refine ⟨String.ofList ('\x7b' :: (memberChars "action" (Json.stringChars r.action) ++
    ',' :: (memberChars "data" (Json.compactChars (.object r.data)) ++
      printerChars r.printer))), ?_⟩
  have hkey : memberChars "callback_id" (Nat.toDigits 10 n) =
      "\x22callback_id\x22:".toList ++ Nat.toDigits 10 n := by
    rw [memberChars, show Json.stringChars "callback_id" = "\x22callback_id\x22".toList by decide]
    rfl
  have hdigits : toString n = String.ofList (Nat.toDigits 10 n) := rfl
  rw [encode, encodeChars, hkey, hdigits]
  apply String.toList_inj.1
  simp

namespace Session.World

variable {H : Type}

/-- The request that awaits its response on the connection of a generation. -/
def pending? (w : World H) (g : Nat) : Option (Connection.Pending (Reply H)) :=
  (w.link? g).bind fun l =>
    match l.connection.phase with
    | .talking t => t.pending
    | _ => none

/-- A handler is called with the data of the first response under the number of its request. -/
theorem answered_of_replied (setup : Setup H) (acts : List (Act H)) {before after : List (Event H)}
    {handler : H} {data : Json}
    (h : (run setup acts).history = before ++ .replied handler data :: after) :
    ∃ g id request earlier later,
      before = earlier ++ .wrote g id ⟨request, .caller handler⟩ :: later ∧
      IsTurn earlier ⟨request, .caller handler⟩ ∧ endings later = [] ∧ writesOn g later = [] ∧
      (responsesOn g later).lookup id = some data := by
  have hlawful := (exchange_run setup acts).lawful
  rw [h] at hlawful
  obtain ⟨g, id, request, ⟨later, hlast, hfirst⟩, -⟩ := hlawful.at
  obtain ⟨earlier, rfl⟩ := hlast.split
  refine ⟨g, id, request, earlier, later, rfl, ?_, hlast.endings, hlast.writes, hfirst⟩
  rw [List.append_assoc, List.cons_append] at hlawful
  rcases hlawful.at.2 with ⟨-, hlogin⟩ | ⟨-, -, hturn⟩
  · cases hlogin
  · exact hturn

/-- A response to another request than the one that awaits its response is passed over. -/
theorem linkStep_of_unmatched {w w' : World H} {g n : Nat} {frame : String} {data : Json}
    {more : List (Event H)} (h : w.linkStep? g = some w')
    (hh : w'.history = w.history ++ .read g (.text frame) :: more)
    (hr : Frame.response? frame = some (n, data))
    (hp : ∀ p, w.pending? g = some p → p.callbackId ≠ n) :
    ∃ l rest, w.link? g = some l ∧ l.unread = .text frame :: rest ∧
      w' = (w.setLink g { l with unread := rest }).note [.read g (.text frame)] := by
  obtain ⟨l, l', effects, hl, hs, rfl⟩ := linkStep?_eq_some h
  have hrecord : ((w.setLink g l').hear g effects).history =
      w.history ++ effects.filterMap (recordOf g) := by
    rcases (w.setLink g l').hear_cases g effects with ⟨-, hw⟩ | ⟨-, hw⟩
    · rw [hw, history_note]
      rfl
    · rw [hw, history_note]
      rfl
  have hread : .read (.text frame) ∈ effects := by
    have hmem : .read g (.text frame) ∈ effects.filterMap (recordOf g) := by
      rw [List.append_cancel_left (hrecord.symm.trans hh)]
      exact List.mem_cons_self
    obtain ⟨e, he, hr⟩ := List.mem_filterMap.1 hmem
    cases e <;> simp only [recordOf, Option.some.injEq, reduceCtorEq] at hr
    cases hr
    exact he
  obtain ⟨rest, hu, rfl, rfl⟩ := Link.step?_of_unmatched hs hread hr fun t p hphase hpend =>
    hp p (by simp [pending?, hl, hphase, hpend])
  refine ⟨l, rest, hl, hu, ?_⟩
  rcases (w.setLink g { l with unread := rest }).hear_cases g [.read (.text frame)] with
    ⟨-, hw⟩ | ⟨-, hw⟩ <;> rw [hw]
  · rfl
  · simp [noticeOf, note, recordOf]

/-- **A handler is called with the data of the first response that was read on the connection of its
request, after the request was written there, and that carried the number in the text of the
request. All other responses change nothing but what is unread.** -/
theorem reply_is_first_response (setup : Setup H) (acts : List (Act H)) :
    (∀ before handler data after,
      (run setup acts).history = before ++ .replied handler data :: after →
      ∃ g id request earlier later,
        before = earlier ++ .wrote g id ⟨request, .caller handler⟩ :: later ∧
        IsTurn earlier ⟨request, .caller handler⟩ ∧ endings later = [] ∧ writesOn g later = [] ∧
        (responsesOn g later).lookup id = some data ∧
        ∃ members,
          request.encode id = members ++ ",\x22callback_id\x22:" ++ toString id ++ "\x7d") ∧
    (∀ g w' frame n data more, (run setup acts).linkStep? g = some w' →
      w'.history = (run setup acts).history ++ .read g (.text frame) :: more →
      Frame.response? frame = some (n, data) →
      (∀ p, (run setup acts).pending? g = some p → p.callbackId ≠ n) →
      ∃ l rest, (run setup acts).link? g = some l ∧ l.unread = .text frame :: rest ∧
        w' = ((run setup acts).setLink g { l with unread := rest }).note
          [.read g (.text frame)]) := by
  refine ⟨fun before handler data after h => ?_,
    fun g w' frame n data more h hh hr hp => linkStep_of_unmatched h hh hr hp⟩
  obtain ⟨g, id, request, earlier, later, hb, hturn, hend, hwrites, hfirst⟩ :=
    answered_of_replied setup acts h
  exact ⟨g, id, request, earlier, later, hb, hturn, hend, hwrites, hfirst, request.encode_eq id⟩

/-- A request that is answered after the login. -/
def sampleReply : List (Act Nat) :=
  sampleLogin ++ [.submit (.named "listPrinter") 1, .step, .linkStep 1, .linkStep 1,
    .arrive 1 (.text "\x7b\x22callback_id\x22:2,\x22data\x22:\x7b\x7d\x7d"), .linkStep 1, .step]

theorem sampleReply_answered : ∃ before after g id request earlier later,
    (run sampleSetup sampleReply).history = before ++ .replied 1 (.object []) :: after ∧
      before = earlier ++ .wrote g id ⟨request, .caller 1⟩ :: later ∧
      (responsesOn g later).lookup id = some (.object []) := by
  have hreplied : .replied 1 (.object []) ∈ (run sampleSetup sampleReply).history := by
    decide +kernel
  obtain ⟨before, after, h⟩ := List.append_of_mem hreplied
  obtain ⟨g, id, request, earlier, later, hb, -, -, -, hfirst, -⟩ :=
    (reply_is_first_response sampleSetup sampleReply).1 before 1 (.object []) after h
  exact ⟨before, after, g, id, request, earlier, later, h, hb, hfirst⟩

end Session.World

end PrintClient
