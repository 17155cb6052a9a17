import PrintClient.Proofs.Connection.Batches
import PrintClient.Proofs.Json.Documents

/-!
# Messages are read as they are meant

An inbound message is an object whose members say the number of a request, whether a list of events
follows, and data; they come in any order and among any other members. An event is an object again.

* `Doc.under`, `Declares`: what the members of a message say;
* `Envelope.Takes`, `Envelope.enter`, `Envelope.readObject_memberTokens`: the members are read one
  after the other;
* `Json.lastMember_ofList`: an object is told by the last members with its keys;
* `IsEvent`, `IsNoEvent`, `PushEvent.ofJson_of_isEvent`: which elements are events;
* `Meant`, `Frame.parse_of_declares`: what every message means.
-/

namespace PrintClient

open Json (Doc Piece Token textOf?)

/-! ### What a message says -/

/-- What stands under a key, in the order of the members. -/
def Json.Doc.under (key : String) (members : List (List Piece × Doc)) : List Doc :=
  members.filterMap fun m => if textOf? m.1 = some key then some m.2 else none

/-- A whole number of a signed word. -/
def Json.Doc.IsWord (d : Doc) (n : Int) : Prop :=
  ∃ l, d = .number l ∧ l.IsWhole n ∧ Word.IsSigned n

/-- A value that does not nest too deep for the data of a message. -/
structure Json.Doc.IsData (d : Doc) : Prop where
  value : d.value?.isSome
  depth : d.depth ≤ Json.nestingLimit - 1

/-- The members of a message say this number, this flag and these data, if they are there; none of
them is repeated. The other members are of any kind. -/
structure Declares (members : List (List Piece × Doc)) (callbackId : Option Int)
    (eventList : Option Bool) (data : Option Doc) : Prop where
  keys : ∀ m ∈ members, (textOf? m.1).isSome
  callbackId : List.Forall₂ Doc.IsWord (Doc.under "callback_id" members) callbackId.toList
  eventList : Doc.under "eventList" members = eventList.toList.map .bool
  isData : ∀ d, data = some d → d.IsData
  data : Doc.under "data" members = data.toList

namespace Envelope

variable {e e' : Envelope} {m : Member} {d : Doc} {members : List (List Piece × Doc)}
  {callbackId : Option Int} {eventList : Option Bool} {data : Option Doc} {seen : List Member}

/-! ### One member -/

/-- An envelope takes a member. -/
def Takes (e : Envelope) (m : Member) (d : Doc) (e' : Envelope) : Prop :=
  ∀ rest, e.readMember m (d.tokens ++ rest) = .ok (e', rest)

theorem takes_callbackId {n : Int} (h : d.IsWord n) :
    e.Takes .callbackId d { e with callbackId := n } := by
  obtain ⟨l, rfl, hwhole, hsigned⟩ := h
  have hwide : Word.signedLeast ≤ n ∧ n < Word.unsignedBound :=
    ⟨hsigned.1, Int.lt_trans hsigned.2 (by decide)⟩
  intro rest
  have hread : Json.readSignedWord ((Doc.number l).tokens ++ rest) = .ok (n, rest) := by
    rw [Doc.tokens, Json.Lexeme.number?_of_whole hwhole hwide]
    exact if_pos hsigned.2
  unfold readMember
  simp only [hread]

theorem takes_eventList (b : Bool) : e.Takes .eventList (.bool b) { e with eventList := b } := by
  intro rest
  rfl

theorem takes_data {v : Json} (hv : d.value? = some v)
    (hdepth : d.depth ≤ Json.nestingLimit - 1) : e.Takes .data d { e with data := v } := by
  intro rest
  have hlength : 2 * d.tokens.length ≤ 2 * (d.tokens ++ rest).length + 1 := by
    rw [List.length_append]
    omega
  have hread := Doc.readValue_tokens d hv hdepth hlength rest
  unfold readMember
  simp only [hread]

/-- The envelope, filled with what a message says. -/
def fill (e : Envelope) (callbackId : Option Int) (eventList : Option Bool) (data : Option Doc) :
    Envelope :=
  ⟨callbackId.getD e.callbackId, eventList.getD e.eventList, (data.bind Doc.value?).getD e.data⟩

/-! ### One member after the other -/

theorem under_cons_self {key : List Piece} {s : String} (hs : textOf? key = some s) :
    Doc.under s ((key, d) :: members) = d :: Doc.under s members := by
  rw [Doc.under, List.filterMap_cons, hs, if_pos rfl]
  rfl

theorem under_cons_of_ne {key : List Piece} {s other : String} (hs : textOf? key = some s)
    (hne : s ≠ other) : Doc.under other ((key, d) :: members) = Doc.under other members := by
  rw [Doc.under, List.filterMap_cons, hs, if_neg (fun h => hne (Option.some.inj h))]
  rfl

/-- What a reader of members does with one of them: it changes the envelope and what was seen. -/
structure Enters (e : Envelope) (seen : List Member) (key : List Piece) (d : Doc) (e' : Envelope)
    (seen' : List Member) : Prop where
  last : ∀ (fuel : Nat) (rest : List Token), readObject (fuel + 1) e seen
    (.string (textOf? key) :: .colon :: (d.tokens ++ .closeBrace :: rest)) = .ok (e', rest)
  more : ∀ (fuel : Nat) (rest : List Token), readObject (fuel + 1) e seen
    (.string (textOf? key) :: .colon :: (d.tokens ++ .comma :: rest)) =
      readObject fuel e' seen' rest

/-- A member that is meant is entered. -/
theorem enters_member {key : List Piece} (hkey : textOf? key = some m.key) (hseen : m ∉ seen)
    (htakes : e.Takes m d e') : Enters e seen key d e' (m :: seen) := by
  have hmember : member? m.key = some m := by cases m <;> rfl
  refine ⟨?_, ?_⟩
  · intro fuel rest
    rw [hkey, readObject]
    simp only [hmember, if_neg hseen, htakes (.closeBrace :: rest)]
  · intro fuel rest
    rw [hkey, readObject]
    simp only [hmember, if_neg hseen, htakes (.comma :: rest)]

/-- Any other member is passed over. -/
theorem enters_other {key : List Piece} {s : String} (hkey : textOf? key = some s)
    (hother : member? s = none) : Enters e seen key d e seen := by
  have hskip (t : Token) (rest : List Token) :
      Json.skipValue (2 * (d.tokens ++ t :: rest).length + 1) (d.tokens ++ t :: rest) =
        .ok (t :: rest) := by
    refine Doc.skipValue_tokens d ?_ (t :: rest)
    rw [List.length_append]
    omega
  refine ⟨?_, ?_⟩
  · intro fuel rest
    rw [hkey, readObject]
    simp only [hother, hskip]
  · intro fuel rest
    rw [hkey, readObject]
    simp only [hother, hskip]

/-- The members seen before do not come again. -/
def Fresh (seen : List Member) (members : List (List Piece × Doc)) : Prop :=
  ∀ m ∈ seen, Doc.under m.key members = []

theorem Fresh.tail {key : List Piece} (h : Fresh seen ((key, d) :: members)) :
    Fresh seen members := by
  intro m hm
  have hnone := h m hm
  rw [Doc.under, List.filterMap_cons] at hnone
  split at hnone
  · exact hnone
  · cases hnone

theorem Fresh.cons (h : Fresh seen members) (hm : Doc.under m.key members = []) :
    Fresh (m :: seen) members := by
  intro m' hm'
  rcases List.mem_cons.1 hm' with rfl | hm'
  · exact hm
  · exact h m' hm'

theorem Fresh.not_mem {key : List Piece} (h : Fresh seen ((key, d) :: members))
    (hkey : textOf? key = some m.key) : m ∉ seen := by
  intro hm
  have hnone := h m hm
  rw [under_cons_self hkey] at hnone
  cases hnone

theorem ne_key_of_member?_none {s : String} (h : member? s = none) (m : Member) : s ≠ m.key := by
  rintro rfl
  cases m <;> cases h

theorem key_ne {m m' : Member} (h : m ≠ m') : m.key ≠ m'.key := by
  intro heq
  cases m <;> cases m' <;> first | exact h rfl | exact absurd heq (by decide)

/-- **The first member of a message is entered**, and the others say the rest. -/
theorem enter {key : List Piece} (hdecl : Declares ((key, d) :: members) callbackId eventList data)
    (hfresh : Fresh seen ((key, d) :: members)) :
    ∃ e' seen' callbackId' eventList' data', Enters e seen key d e' seen' ∧
      Declares members callbackId' eventList' data' ∧ Fresh seen' members ∧
      e'.fill callbackId' eventList' data' = e.fill callbackId eventList data := by
  obtain ⟨s, hs⟩ : ∃ s, textOf? key = some s :=
    Option.isSome_iff_exists.1 (hdecl.keys (key, d) List.mem_cons_self)
  have hkeys : ∀ m ∈ members, (textOf? m.1).isSome :=
    fun m hm => hdecl.keys m (List.mem_cons_of_mem _ hm)
  have hcallbackId : List.Forall₂ Doc.IsWord
      (Doc.under (Member.key .callbackId) ((key, d) :: members)) callbackId.toList :=
    hdecl.callbackId
  have heventList : Doc.under (Member.key .eventList) ((key, d) :: members) =
      eventList.toList.map .bool := hdecl.eventList
  have hdata : Doc.under (Member.key .data) ((key, d) :: members) = data.toList := hdecl.data
  have hisData := hdecl.isData
  cases hmember : member? s with
  | none =>
    have hne := ne_key_of_member?_none hmember
    rw [under_cons_of_ne hs (hne .callbackId)] at hcallbackId
    rw [under_cons_of_ne hs (hne .eventList)] at heventList
    rw [under_cons_of_ne hs (hne .data)] at hdata
    exact ⟨e, seen, callbackId, eventList, data, enters_other hs hmember,
      ⟨hkeys, hcallbackId, heventList, hisData, hdata⟩, hfresh.tail, rfl⟩
  | some m =>
    have hkey : m.key = s := by simpa using List.find?_some hmember
    subst hkey
    -- what is under this key is used up; the other two keys keep what is under them
    have hseen := hfresh.not_mem hs
    have hother (m' : Member) (h : m ≠ m') :
        Doc.under m'.key ((key, d) :: members) = Doc.under m'.key members :=
      under_cons_of_ne hs (key_ne h)
    cases m with
    | callbackId =>
      rw [under_cons_self hs] at hcallbackId
      rw [hother .eventList nofun] at heventList
      rw [hother .data nofun] at hdata
      cases callbackId with
      | none => cases hcallbackId
      | some n =>
        obtain ⟨hn, htail⟩ := List.forall₂_cons.1 hcallbackId
        have hnone := List.forall₂_nil_right_iff.1 htail
        exact ⟨_, _, none, eventList, data, enters_member hs hseen (takes_callbackId hn),
          ⟨hkeys, htail, heventList, hisData, hdata⟩, hfresh.tail.cons hnone, rfl⟩
    | eventList =>
      rw [under_cons_self hs] at heventList
      rw [hother .callbackId nofun] at hcallbackId
      rw [hother .data nofun] at hdata
      cases eventList with
      | none => cases heventList
      | some b =>
        obtain ⟨rfl, hnone⟩ := List.cons.inj heventList
        exact ⟨_, _, callbackId, none, data, enters_member hs hseen (takes_eventList b),
          ⟨hkeys, hcallbackId, hnone, hisData, hdata⟩, hfresh.tail.cons hnone, rfl⟩
    | data =>
      rw [under_cons_self hs] at hdata
      rw [hother .callbackId nofun] at hcallbackId
      rw [hother .eventList nofun] at heventList
      cases data with
      | none => cases hdata
      | some d' =>
        obtain ⟨rfl, hnone⟩ := List.cons.inj hdata
        obtain ⟨v, hv⟩ := Option.isSome_iff_exists.1 (hisData d rfl).value
        refine ⟨_, _, callbackId, eventList, none,
          enters_member hs hseen (takes_data hv (hisData d rfl).depth),
          ⟨hkeys, hcallbackId, heventList, nofun, hnone⟩, hfresh.tail.cons hnone, ?_⟩
        simp [fill, hv]

/-- A message without members says nothing. -/
theorem fill_of_declares_nil (h : Declares [] callbackId eventList data) (e : Envelope) :
    e.fill callbackId eventList data = e := by
  have hcallbackId : callbackId = none := by
    cases callbackId with
    | none => rfl
    | some n => cases h.callbackId
  have heventList : eventList = none := by
    cases eventList with
    | none => rfl
    | some b => cases h.eventList
  have hdata : data = none := by
    cases data with
    | none => rfl
    | some d => cases h.data
  rw [hcallbackId, heventList, hdata]
  rfl

/-- **The members of a message fill the envelope**, in any order. -/
theorem readObject_memberTokens {fuel : Nat} (hne : members ≠ [])
    (hdecl : Declares members callbackId eventList data) (hfresh : Fresh seen members)
    (hfuel : members.length ≤ fuel) (rest : List Token) :
    readObject fuel e seen (Doc.memberTokens members ++ rest) =
      .ok (e.fill callbackId eventList data, rest) := by
  induction members generalizing e seen callbackId eventList data fuel with
  | nil => exact absurd rfl hne
  | cons member members ih =>
    obtain ⟨key, d⟩ := member
    obtain ⟨e', seen', callbackId', eventList', data', henters, hdecl', hfresh', hfill⟩ :=
      enter (e := e) hdecl hfresh
    rw [← hfill]
    cases fuel with
    | zero => cases hfuel
    | succ fuel =>
      cases members with
      | nil =>
        rw [Doc.memberTokens_last, fill_of_declares_nil hdecl']
        exact henters.last fuel rest
      | cons m ms =>
        rw [Doc.memberTokens_more, henters.more]
        exact ih (List.cons_ne_nil _ _) hdecl' hfresh' (Nat.le_of_succ_le_succ hfuel)

theorem length_le_memberTokens (members : List (List Piece × Doc)) :
    members.length ≤ (Doc.memberTokens members).length := by
  induction members with
  | nil => exact Nat.zero_le _
  | cons member members ih =>
    have hlength := Doc.length_memberTokens member members
    rw [List.length_cons]
    omega

/-- **A message is read as what it says**, in whatever order, and among whatever other members. -/
theorem parse_declared {text : String} (htext : (Doc.object members).IsText text)
    (hdecl : Declares members callbackId eventList data) :
    Envelope.parse text = .ok (empty.fill callbackId eventList data) := by
  have hread : read (Json.tokens text) = .ok (empty.fill callbackId eventList data, []) := by
    rw [Doc.tokens_of_isText htext, Doc.tokens]
    cases members with
    | nil =>
      rw [fill_of_declares_nil hdecl]
      rfl
    | cons member members =>
      obtain ⟨key, d⟩ := member
      have hfresh : Fresh [] ((key, d) :: members) := nofun
      have hmembers := readObject_memberTokens (e := empty) (List.cons_ne_nil _ _) hdecl hfresh
        (length_le_memberTokens _) []
      have hopen := Doc.memberTokens_ne (key, d) members []
      rw [List.append_nil] at hmembers hopen
      rw [read, hmembers]
      exact hopen
  rw [Envelope.parse, hread]

end Envelope

/-! ### Members of objects -/

namespace Json

variable {key : String} {found : Json} {d : Dict Json}

/-- In a dictionary no key comes twice. -/
theorem lastMember_eq_find? (hd : Dict.Sorted d) :
    lastMember key found d = (Dict.find? key d).getD found := by
  induction d generalizing found with
  | nil => rfl
  | cons p d ih =>
    obtain ⟨k, v⟩ := p
    obtain ⟨hlt, hd⟩ := List.pairwise_cons.1 hd
    have htail : lastMember key found ((k, v) :: d) =
        lastMember key (if k = key then v else found) d := rfl
    rw [htail, ih hd, Dict.find?]
    by_cases heq : k = key
    · subst heq
      rw [if_pos rfl, if_pos rfl, Dict.find?_of_lt hlt]
      rfl
    · rw [if_neg heq, if_neg heq]

theorem lastMember_insert (hd : Dict.Sorted d) (k : String) (v : Json) :
    lastMember key found (Dict.insert k v d) = if k = key then v else lastMember key found d := by
  rw [lastMember_eq_find? (Dict.sorted_insert k v hd), lastMember_eq_find? hd]
  by_cases heq : k = key
  · subst heq
    rw [Dict.find?_insert_self, if_pos rfl]
    rfl
  · rw [Dict.find?_insert_of_ne (Ne.symm heq), if_neg heq]

theorem lastMember_foldl (pairs : List (String × Json)) (hd : Dict.Sorted d) :
    lastMember key found (pairs.foldl (fun d p => Dict.insert p.1 p.2 d) d) =
      lastMember key (lastMember key found d) pairs := by
  induction pairs generalizing d with
  | nil => rfl
  | cons p pairs ih =>
    rw [List.foldl_cons, ih (Dict.sorted_insert p.1 p.2 hd), lastMember_insert hd]
    rfl

/-- **What an object holds under a key is what its last member with that key says.** -/
theorem lastMember_ofList (key : String) (pairs : List (String × Json)) :
    lastMember key .null (Dict.ofList pairs) = lastMember key .null pairs :=
  lastMember_foldl pairs List.Pairwise.nil

theorem lastMember_of_mem (hd : Dict.Sorted d) {v : Json} (h : (key, v) ∈ d) (found : Json) :
    lastMember key found d = v := by
  rw [lastMember_eq_find? hd, Dict.find?_of_mem hd h]
  rfl

theorem mem_of_lastMember (key : String) (d : List (String × Json)) (found : Json) :
    lastMember key found d = found ∨ (key, lastMember key found d) ∈ d := by
  induction d generalizing found with
  | nil => exact .inl rfl
  | cons p d ih =>
    obtain ⟨k, v⟩ := p
    have htail : lastMember key found ((k, v) :: d) =
        lastMember key (if k = key then v else found) d := rfl
    rw [htail]
    by_cases heq : k = key
    · subst heq
      rw [if_pos rfl]
      rcases ih v with h | h
      · rw [h]
        exact .inr List.mem_cons_self
      · exact .inr (List.mem_cons_of_mem _ h)
    · rw [if_neg heq]
      exact (ih found).imp id fun h => List.mem_cons_of_mem _ h

end Json

/-! ### Events -/

/-- An object with these members, in their order. -/
def Json.Doc.Lists (d : Doc) (pairs : List (String × Json)) : Prop :=
  ∃ members, d = .object members ∧ Doc.memberValues? members = some pairs

/-- What members have to say for an event: what is absent counts as `null`, and a printer that is
`null` counts as empty. -/
structure PushEvent.IsSaidBy (e : PushEvent) (pairs : List (String × Json)) : Prop where
  name : Json.lastMember "event" .null pairs = .string e.name
  printer : Json.lastMember "printer" .null pairs = .string e.printer ∨
    Json.lastMember "printer" .null pairs = .null ∧ e.printer = ""
  data : Json.lastMember "data" .null pairs = e.data

/-- An object that is an event. -/
def IsEvent (d : Doc) (e : PushEvent) : Prop := ∃ pairs, d.Lists pairs ∧ e.IsSaidBy pairs

/-- An object that is no event, or what is neither an object nor a list. -/
inductive IsNoEvent : Doc → Prop
  | name {d : Doc} {pairs : List (String × Json)} (h : d.Lists pairs)
      (htext : ∀ s, Json.lastMember "event" .null pairs ≠ .string s) : IsNoEvent d
  | printer {d : Doc} {pairs : List (String × Json)} (h : d.Lists pairs)
      (hnull : Json.lastMember "printer" .null pairs ≠ .null)
      (htext : ∀ s, Json.lastMember "printer" .null pairs ≠ .string s) : IsNoEvent d
  | neither {d : Doc} (hobject : ∀ members, d ≠ .object members)
      (harray : ∀ items, d ≠ .array items) : IsNoEvent d

theorem Json.Doc.Lists.value {d : Doc} {pairs : List (String × Json)} {v : Json}
    (h : d.Lists pairs) (hv : d.value? = some v) : v = .object (Dict.ofList pairs) := by
  obtain ⟨members, rfl, hpairs⟩ := h
  rw [Doc.value?, hpairs] at hv
  exact (Option.some.inj hv).symm

namespace PushEvent

variable {e : PushEvent} {d : Doc} {v : Json}

/-- Members are taken if what they say of the name and the printer is of the right kind. -/
theorem ofMembers_isOk {members : List (String × Json)} {name : Option String} {e : PushEvent}
    (hevent : ∀ v, ("event", v) ∈ members → ∃ s, v = .string s)
    (hprinter : ∀ v, ("printer", v) ∈ members → v = .null ∨ ∃ s, v = .string s)
    (hname : name.isSome ∨ ∃ v, ("event", v) ∈ members) :
    ∃ e', ofMembers name e members = .ok e' := by
  induction members generalizing name e with
  | nil =>
    rcases hname with hname | ⟨v, hv⟩
    · obtain ⟨s, rfl⟩ := Option.isSome_iff_exists.1 hname
      exact ⟨_, rfl⟩
    · cases hv
  | cons p members ih =>
    obtain ⟨key, v⟩ := p
    have hevent' := fun v hv => hevent v (List.mem_cons_of_mem _ hv)
    have hprinter' := fun v hv => hprinter v (List.mem_cons_of_mem _ hv)
    unfold ofMembers
    by_cases hkey : key = "event"
    · subst hkey
      obtain ⟨s, rfl⟩ := hevent v List.mem_cons_self
      exact ih hevent' hprinter' (.inl rfl)
    have hname' : name.isSome ∨ ∃ v, ("event", v) ∈ members := by
      refine hname.imp id ?_
      rintro ⟨w, hw⟩
      rcases List.mem_cons.1 hw with heq | hw
      · exact absurd (Prod.mk.inj heq).1.symm hkey
      · exact ⟨w, hw⟩
    rw [if_neg hkey]
    by_cases hkey' : key = "printer"
    · subst hkey'
      rw [if_pos rfl]
      rcases hprinter v List.mem_cons_self with rfl | ⟨s, rfl⟩
      · exact ih hevent' hprinter' hname'
      · exact ih hevent' hprinter' hname'
    · rw [if_neg hkey']
      split
      · exact ih hevent' hprinter' hname'
      · exact ih hevent' hprinter' hname'

/-- An event is told by what it says. -/
theorem IsSaidBy.eq_of_tells {pairs : List (String × Json)} {e' : PushEvent}
    (h : e.IsSaidBy pairs) (ht : Tells (.object (Dict.ofList pairs)) e') : e' = e := by
  obtain ⟨hname, hprinter, hdata⟩ := ht
  simp only [Json.said, Json.lastMember_ofList] at hname hprinter hdata
  have hsame : e'.name = e.name := by
    rw [h.name] at hname
    exact (Json.string.inj hname).symm
  have hsame' : e'.printer = e.printer := by
    rcases h.printer with hp | ⟨hp, hempty⟩
    · rw [hp] at hprinter
      rcases hprinter with hp' | ⟨hp', -⟩
      · exact (Json.string.inj hp').symm
      · cases hp'
    · rw [hp] at hprinter
      rcases hprinter with hp' | ⟨-, hempty'⟩
      · cases hp'
      · rw [hempty, hempty']
  have hsame'' : e'.data = e.data := by rw [← hdata, h.data]
  cases e
  cases e'
  cases hsame
  cases hsame'
  cases hsame''
  rfl

/-- **An object that says what an event has to say is read as this event.** -/
theorem ofJson_of_isEvent (h : IsEvent d e) (hv : d.value? = some v) : ofJson v = .ok e := by
  obtain ⟨pairs, hlists, hsaid⟩ := h
  have hvalue := hlists.value hv
  subst hvalue
  have hsorted := Dict.sorted_ofList pairs
  -- some event is read, since nothing in the object is of the wrong kind; it is this one
  have hok : ∃ e', ofMembers none ⟨"", "", .null⟩ (Dict.ofList pairs) = .ok e' := by
    refine ofMembers_isOk ?_ ?_ (.inr ?_)
    · intro w hw
      refine ⟨e.name, ?_⟩
      rw [← Json.lastMember_of_mem hsorted hw .null, Json.lastMember_ofList]
      exact hsaid.name
    · intro w hw
      rw [← Json.lastMember_of_mem hsorted hw .null, Json.lastMember_ofList]
      exact hsaid.printer.symm.imp And.left fun h => ⟨_, h⟩
    · have hname := hsaid.name
      rw [← Json.lastMember_ofList] at hname
      rcases Json.mem_of_lastMember "event" (Dict.ofList pairs) .null with h | h
      · rw [h] at hname
        cases hname
      · exact ⟨_, h⟩
  obtain ⟨e', he'⟩ := hok
  have heq := hsaid.eq_of_tells (tells_of_ofJson (v := .object (Dict.ofList pairs)) he')
  subst heq
  exact he'

/-- **What is no event says nothing that could be read.** -/
theorem not_tells_of_isNoEvent (h : IsNoEvent d) (hv : d.value? = some v) : ¬ Tells v e := by
  intro ht
  cases h with
  | name hlists htext =>
    have hname := ht.name
    rw [hlists.value hv, Json.said, Json.lastMember_ofList] at hname
    exact htext _ hname
  | printer hlists hnull htext =>
    have hprinter := ht.printer
    rw [hlists.value hv, Json.said, Json.lastMember_ofList] at hprinter
    exact hprinter.elim (htext _) fun h => hnull h.1
  | neither hobject harray =>
    have hname := ht.name
    cases d with
    | array items => exact harray items rfl
    | object members => exact hobject members rfl
    | number l =>
      obtain ⟨n, -, rfl⟩ := Option.map_eq_some_iff.1 hv
      cases hname
    | string ps =>
      obtain ⟨s, -, rfl⟩ := Option.map_eq_some_iff.1 hv
      cases hname
    | _ =>
      cases hv
      cases hname

/-! ### Batches -/

/-- A batch of events is read as these events, in its order. -/
theorem mapM_of_isEvent {items : List Doc} {batch : List PushEvent} {vs : List Json}
    (h : List.Forall₂ IsEvent items batch) (hvs : Doc.values? items = some vs) :
    vs.mapM ofJson = .ok batch := by
  induction h generalizing vs with
  | nil =>
    cases hvs
    rfl
  | cons hevent _ ih =>
    obtain ⟨v, rest, hv, hrest, rfl⟩ := Doc.values?_cons hvs
    rw [List.mapM_cons, ofJson_of_isEvent hevent hv, ih hrest]
    rfl

/-- **One element that is no event spoils the batch.** -/
theorem not_mapM_of_isNoEvent {items : List Doc} {vs : List Json} (hd : d ∈ items)
    (h : IsNoEvent d) (hvs : Doc.values? items = some vs) (batch : List PushEvent) :
    vs.mapM ofJson ≠ .ok batch := by
  intro hbatch
  have htells := tells_of_mapM hbatch
  clear hbatch
  induction items generalizing vs batch with
  | nil => cases hd
  | cons d' items ih =>
    obtain ⟨v, rest, hv, hrest, rfl⟩ := Doc.values?_cons hvs
    obtain ⟨e, batch', ht, htells', rfl⟩ := List.forall₂_cons_left_iff.1 htells
    rcases List.mem_cons.1 hd with rfl | hd
    · exact not_tells_of_isNoEvent h hv ht
    · exact ih hd hrest batch' htells'

end PushEvent

/-! ### Frames -/

/-- What a text frame means that says this. -/
structure Meant (text : String) (callbackId : Option Int) (eventList : Option Bool)
    (data : Option Doc) : Prop where
  /-- A number that is not negative makes a response, whatever else is said. -/
  response : ∀ n, callbackId = some n → 0 ≤ n →
    Frame.parse text = .ok (.response n.toNat ((data.bind Doc.value?).getD .null))
  /-- Without such a number a list of events is a batch. -/
  events : (∀ n, callbackId = some n → n < 0) → eventList = some true →
    ∀ items batch, data = some (.array items) → List.Forall₂ IsEvent items batch →
      Frame.parse text = .ok (.events batch)
  /-- One element that is no event makes the whole frame malformed. -/
  spoiled : (∀ n, callbackId = some n → n < 0) → eventList = some true →
    ∀ items, data = some (.array items) → (∃ d ∈ items, IsNoEvent d) →
      ∃ f, Frame.parse text = .error (.eventList f)
  /-- So do data that are no list, or no data at all. -/
  unlisted : (∀ n, callbackId = some n → n < 0) → eventList = some true →
    (∀ items, data ≠ some (.array items)) → ∃ f, Frame.parse text = .error (.eventList f)
  /-- What is neither a response nor a batch is ignored. -/
  ignored : (∀ n, callbackId = some n → n < 0) → eventList ≠ some true →
    Frame.parse text = .ok .ignored

/-- The values of a list that is the data of a message. -/
theorem values_of_isData {items : List Doc} (h : (Doc.array items).IsData) :
    ∃ vs, Doc.values? items = some vs ∧
      ((some (Doc.array items)).bind Doc.value?).getD .null = .array vs := by
  obtain ⟨v, hv⟩ := Option.isSome_iff_exists.1 h.value
  obtain ⟨vs, hvs, rfl⟩ := Option.map_eq_some_iff.1 hv
  refine ⟨vs, hvs, ?_⟩
  rw [Option.bind_some, hv]
  rfl

/-- Data that are no list are no batch. -/
theorem listOfJson_of_unlisted {data : Option Doc} (h : ∀ items, data ≠ some (.array items)) :
    ∃ f, PushEvent.listOfJson ((data.bind Doc.value?).getD .null) = .error f := by
  cases data with
  | none => exact ⟨_, rfl⟩
  | some d =>
    rw [Option.bind_some]
    cases d with
    | array items => exact absurd rfl (h items)
    | object members =>
      rw [Doc.value?]
      cases Doc.memberValues? members <;> exact ⟨_, rfl⟩
    | number l =>
      rw [Doc.value?]
      cases l.number? <;> exact ⟨_, rfl⟩
    | string ps =>
      rw [Doc.value?]
      cases textOf? ps <;> exact ⟨_, rfl⟩
    | _ => exact ⟨_, rfl⟩

/-- **Every message is read as it is meant**, in whatever order it says what it says. -/
theorem Frame.parse_of_declares (text : String) (members : List (List Piece × Doc))
    (callbackId : Option Int) (eventList : Option Bool) (data : Option Doc)
    (htext : (Doc.object members).IsText text)
    (hdecl : Declares members callbackId eventList data) :
    Meant text callbackId eventList data := by
  have hparse : Frame.parse text = (Envelope.empty.fill callbackId eventList data).toFrame := by
    rw [Frame.parse, Envelope.parse_declared htext hdecl]
  have hnegative : (∀ n, callbackId = some n → n < 0) →
      ¬ 0 ≤ (Envelope.empty.fill callbackId eventList data).callbackId := by
    intro hn
    cases callbackId with
    | none => exact (by decide : ¬ (0 : Int) ≤ -1)
    | some n => exact Int.not_le.2 (hn n rfl)
  have hbatch : (∀ n, callbackId = some n → n < 0) → eventList = some true →
      Frame.parse text =
        ((PushEvent.listOfJson ((data.bind Doc.value?).getD .null)).map .events).mapError
          .eventList := by
    intro hn htrue
    rw [hparse, Envelope.toFrame_of_eventList (Int.not_le.1 (hnegative hn)) (by rw [htrue]; rfl)]
    rfl
  refine ⟨?_, ?_, ?_, ?_, ?_⟩
  · rintro n rfl hn
    rw [hparse, Envelope.toFrame]
    exact if_pos hn
  · rintro hn htrue items batch rfl hevents
    obtain ⟨vs, hvs, hdata⟩ := values_of_isData (hdecl.isData _ rfl)
    rw [hbatch hn htrue, hdata, PushEvent.listOfJson, PushEvent.mapM_of_isEvent hevents hvs]
    rfl
  · rintro hn htrue items rfl ⟨d, hd, hbad⟩
    obtain ⟨vs, hvs, hdata⟩ := values_of_isData (hdecl.isData _ rfl)
    rw [hbatch hn htrue, hdata, PushEvent.listOfJson]
    cases hmap : vs.mapM PushEvent.ofJson with
    | ok batch => exact absurd hmap (PushEvent.not_mapM_of_isNoEvent hd hbad hvs batch)
    | error f => exact ⟨f, rfl⟩
  · intro hn htrue hlist
    obtain ⟨f, hf⟩ := listOfJson_of_unlisted hlist
    rw [hbatch hn htrue, hf]
    exact ⟨f, rfl⟩
  · intro hn hfalse
    rw [hparse, Envelope.toFrame, if_neg (hnegative hn)]
    refine if_neg ?_
    cases eventList with
    | none => exact Bool.false_ne_true
    | some b => exact fun hb => hfalse (congrArg some hb)

/-! ### A message -/

/-- A batch of one event, whose printer is left out. -/
def sampleMembers : List (List Piece × Doc) :=
  [(Json.plain "eventList", .bool true),
    (Json.plain "data", .array [.object [(Json.plain "event", .string (Json.plain "temp"))]])]

/-- A text of this batch. -/
def sampleText : String :=
  "\x7b\x22eventList\x22:true, \x22data\x22:[\x7b\x22event\x22:\x22temp\x22\x7d]\x7d"

/-- A text without quotes, backslashes and control characters is written as it is. -/
theorem writes_plain {s : String}
    (h : s.toList.all (fun c => c ≠ '\x22' ∧ c ≠ '\\' ∧ 32 ≤ c.toNat) = true) :
    Json.Writes (.string (some s)) ('\x22' :: (s.toList ++ ['\x22'])) := by
  rw [← Json.textOf?_plain s]
  exact .string (Json.writesPieces_plain fun c hc => of_decide_eq_true (List.all_eq_true.1 h c hc))

theorem sampleText_isText : (Doc.object sampleMembers).IsText sampleText := by
  have htokens : (Doc.object sampleMembers).tokens =
      [.openBrace, .string (some "eventList"), .colon, .bool true, .comma,
        .string (some "data"), .colon, .openBracket, .openBrace, .string (some "event"), .colon,
        .string (some "temp"), .closeBrace, .closeBracket, .closeBrace] := by
    simp [sampleMembers, Doc.tokens, Doc.memberTokens, Doc.itemTokens]
  have htext : sampleText.toList = ['\x7b'] ++ (('\x22' :: ("eventList".toList ++ ['\x22'])) ++
      ([':'] ++ (['t', 'r', 'u', 'e'] ++ ([','] ++ (' ' ::
      (('\x22' :: ("data".toList ++ ['\x22'])) ++ ([':'] ++ (['['] ++ (['\x7b'] ++
      (('\x22' :: ("event".toList ++ ['\x22'])) ++ ([':'] ++
      (('\x22' :: ("temp".toList ++ ['\x22'])) ++
      (['\x7d'] ++ ([']'] ++ (['\x7d'] ++ []))))))))))))))) := by decide
  rw [Doc.IsText, htokens, htext]
  exact .token .openBrace <| .token (writes_plain (by decide)) <| .token .colon <|
    .token .yes <| .token .comma <| .blank rfl <| .token (writes_plain (by decide)) <|
    .token .colon <| .token .openBracket <| .token .openBrace <|
    .token (writes_plain (by decide)) <| .token .colon <| .token (writes_plain (by decide)) <|
    .token .closeBrace <| .token .closeBracket <| .token .closeBrace .nil

theorem sampleMembers_declare : Declares sampleMembers none (some true)
    (some (.array [.object [(Json.plain "event", .string (Json.plain "temp"))]])) where
  keys := by simp [sampleMembers]
  callbackId := by simp [sampleMembers, Doc.under]
  eventList := by simp [sampleMembers, Doc.under]
  isData := by
    intro d hd
    cases hd
    refine ⟨?_, by decide⟩
    simp [Doc.value?, Doc.values?, Doc.memberValues?]
  data := by simp [sampleMembers, Doc.under]

/-- The batch is read as its event. -/
theorem Frame.parse_sampleText : (Doc.object sampleMembers).IsText sampleText ∧
    Declares sampleMembers none (some true)
      (some (.array [.object [(Json.plain "event", .string (Json.plain "temp"))]])) ∧
    Frame.parse sampleText = .ok (.events [⟨"temp", "", .null⟩]) := by
  have hmeant := Frame.parse_of_declares sampleText sampleMembers none (some true) _
    sampleText_isText sampleMembers_declare
  have hevent : IsEvent (.object [(Json.plain "event", .string (Json.plain "temp"))])
      ⟨"temp", "", .null⟩ := by
    refine ⟨[("event", .string "temp")], ⟨_, rfl, ?_⟩, rfl, .inr ⟨rfl, rfl⟩, rfl⟩
    simp [Doc.memberValues?, Doc.value?]
  exact ⟨sampleText_isText, sampleMembers_declare,
    hmeant.events (fun n hn => by cases hn) rfl _ _ rfl (.cons hevent .nil)⟩

end PrintClient
