import Mathlib.Data.List.Forall2
import PrintClient.Frame

/-!
# Events of a batch

An event in object form says what it says under its keys, one in list form by the places of its
items. What is absent counts as `null`, and a printer that is `null` counts as empty.

* `Json.said`: what an event says under a key, or at a place;
* `PushEvent.Tells`: what an event must say to be read as this one;
* `PushEvent.tells_of_ofJson`: an event that is read says what was read;
* `PushEvent.exists_mapM_eq_ok`: a batch is read when all its events are;
* `Frame.tells_of_parse`: so it is with every event of a batch, in its order.
-/

namespace PrintClient

namespace Json

/-- What is said under a key; of members with the same key the last one counts. -/
def lastMember (key : String) (found : Json) (members : List (String × Json)) : Json :=
  members.foldl (fun found p => if p.1 = key then p.2 else found) found

/-- What an event says under a key in object form, and at a place in list form. -/
def said (v : Json) (key : String) (place : Nat) : Json :=
  match v with
  | .object members => lastMember key .null members
  | .array items => (items[place]?).getD .null
  | _ => .null

end Json

namespace PushEvent

/-- What an event must say to be read as `e`. -/
structure Tells (v : Json) (e : PushEvent) : Prop where
  name : v.said "event" 0 = .string e.name
  printer : v.said "printer" 1 = .string e.printer ∨ v.said "printer" 1 = .null ∧ e.printer = ""
  data : v.said "data" 2 = e.data

theorem text_eq_ok {v : Json} {s : String} (h : text v = .ok s) : v = .string s := by
  cases v with
  | string => cases h; rfl
  | _ => cases h

theorem optionalText_eq_ok {v : Json} {s : String} (h : optionalText v = .ok s) :
    v = .string s ∨ v = .null ∧ s = "" := by
  cases v with
  | null => cases h; exact .inr ⟨rfl, rfl⟩
  | string => exact .inl (text_eq_ok h)
  | _ => cases h

/-- The members of an event that is read; `n` and `p` were found before as name and printer. -/
theorem said_of_ofMembers {members : List (String × Json)} {name : Option String}
    {e e' : PushEvent} {n p : Json} (h : ofMembers name e members = .ok e')
    (hname : ∀ s, name = some s → n = .string s)
    (hprinter : p = .string e.printer ∨ p = .null ∧ e.printer = "") :
    Json.lastMember "event" n members = .string e'.name ∧
      (Json.lastMember "printer" p members = .string e'.printer ∨
        Json.lastMember "printer" p members = .null ∧ e'.printer = "") ∧
      Json.lastMember "data" e.data members = e'.data := by
  induction members generalizing name e n p with
  | nil =>
    cases name with
    | none => cases h
    | some s => cases h; exact ⟨hname s rfl, hprinter, rfl⟩
  | cons member rest ih =>
    obtain ⟨key, v⟩ := member
    simp only [Json.lastMember, List.foldl_cons]
    unfold ofMembers at h
    by_cases hevent : key = "event"
    · subst hevent
      simp only [if_true] at h
      cases ht : text v with
      | error f => rw [ht] at h; cases h
      | ok s =>
        rw [ht] at h
        refine ih h ?_ hprinter
        rintro _ ⟨⟩
        exact text_eq_ok ht
    by_cases hkey : key = "printer"
    · subst hkey
      simp only [hevent, if_false, if_true] at h ⊢
      cases ht : optionalText v with
      | error f => rw [ht] at h; cases h
      | ok s =>
        rw [ht] at h
        exact ih (e := { e with printer := s }) h hname (optionalText_eq_ok ht)
    by_cases hdata : key = "data"
    · subst hdata
      simp only [hevent, hkey, if_false, if_true] at h ⊢
      exact ih (e := { e with data := v }) h hname hprinter
    · simp only [hevent, hkey, hdata, if_false] at h ⊢
      exact ih h hname hprinter

theorem tells_of_ofItems {items : List Json} {e : PushEvent} (h : ofItems items = .ok e) :
    Tells (.array items) e := by
  cases items with
  | nil => cases h
  | cons first rest =>
    simp only [ofItems, bind, Except.bind] at h
    cases hname : text first with
    | error f => rw [hname] at h; cases h
    | ok name =>
      cases hprinter : optionalText (rest.headD .null) with
      | error f => rw [hname, hprinter] at h; cases h
      | ok printer =>
        rw [hname, hprinter] at h
        replace h : (if 3 < (first :: rest).length then _ else _) = _ := h
        split at h
        · cases h
        · cases h
          rw [List.headD_eq_head?_getD, List.head?_eq_getElem?] at hprinter
          refine ⟨text_eq_ok hname, optionalText_eq_ok hprinter, ?_⟩
          rw [List.headD_eq_head?_getD, List.head?_drop]
          rfl

/-- An event that is read says what was read. -/
theorem tells_of_ofJson {v : Json} {e : PushEvent} (h : ofJson v = .ok e) : Tells v e := by
  cases v with
  | object members =>
    obtain ⟨hname, hprinter, hdata⟩ :=
      said_of_ofMembers (n := .null) h (fun s hs => by cases hs) (.inr ⟨rfl, rfl⟩)
    exact ⟨hname, hprinter, hdata⟩
  | array items => exact tells_of_ofItems h
  | _ => cases h

/-- A batch is read element by element. -/
theorem mapM_eq_ok {items : List Json} {batch : List PushEvent} :
    items.mapM ofJson = .ok batch ↔ List.Forall₂ (fun v e => ofJson v = .ok e) items batch := by
  constructor
  · intro h
    induction items generalizing batch with
    | nil => cases h; exact .nil
    | cons v items ih =>
      rw [List.mapM_cons] at h
      cases hv : ofJson v with
      | error f => rw [hv] at h; cases h
      | ok e =>
        cases hrest : items.mapM ofJson with
        | error f => rw [hv, hrest] at h; cases h
        | ok rest =>
          rw [hv, hrest] at h
          cases h
          exact .cons hv (ih hrest)
  · intro h
    induction h with
    | nil => rfl
    | cons hv _ ih => rw [List.mapM_cons, hv, ih]; rfl

theorem tells_of_mapM {items : List Json} {batch : List PushEvent}
    (h : items.mapM ofJson = .ok batch) : List.Forall₂ Tells items batch :=
  (mapM_eq_ok.1 h).imp fun _ _ => tells_of_ofJson

/-- **One element that is not read spoils the batch**, and nothing else does. -/
theorem exists_mapM_eq_ok {items : List Json} :
    (∃ batch, items.mapM ofJson = .ok batch) ↔ ∀ v ∈ items, ∃ e, ofJson v = .ok e := by
  simp only [mapM_eq_ok]
  induction items with
  | nil => exact iff_of_true ⟨[], .nil⟩ (by simp)
  | cons v items ih =>
    rw [List.forall_mem_cons, ← ih]
    constructor
    · rintro ⟨_, _ | ⟨hv, hrest⟩⟩
      exact ⟨⟨_, hv⟩, _, hrest⟩
    · rintro ⟨⟨e, hv⟩, rest, hrest⟩
      exact ⟨e :: rest, .cons hv hrest⟩

end PushEvent

/-- A frame that lists events is read by reading the list. -/
theorem Envelope.toFrame_of_eventList {e : Envelope} (hid : e.callbackId < 0)
    (hlist : e.eventList = true) :
    e.toFrame = ((PushEvent.listOfJson e.data).map .events).mapError .eventList := by
  rw [toFrame, if_neg (by omega), if_pos hlist]
  cases PushEvent.listOfJson e.data <;> rfl

/-- **A frame is a batch of events when it lists them**: the events are those of the list, in its
order. -/
theorem Frame.tells_of_parse {text : String} {batch : List PushEvent}
    (h : Frame.parse text = .ok (.events batch)) : ∃ envelope items,
      Envelope.parse text = .ok envelope ∧ envelope.callbackId < 0 ∧ envelope.eventList = true ∧
      envelope.data = .array items ∧ List.Forall₂ PushEvent.Tells items batch := by
  unfold Frame.parse at h
  cases hparse : Envelope.parse text with
  | error f => rw [hparse] at h; cases h
  | ok envelope =>
    rw [hparse] at h
    replace h : envelope.toFrame = _ := h
    by_cases hid : 0 ≤ envelope.callbackId
    · rw [Envelope.toFrame, if_pos hid] at h
      cases h
    by_cases hlist : envelope.eventList = true
    · rw [Envelope.toFrame_of_eventList (by omega) hlist] at h
      cases hdata : envelope.data with
      | array items =>
        rw [hdata, PushEvent.listOfJson] at h
        cases hitems : items.mapM PushEvent.ofJson with
        | error f => rw [hitems] at h; cases h
        | ok events =>
          rw [hitems] at h
          cases h
          exact ⟨envelope, items, rfl, by omega, hlist, hdata, PushEvent.tells_of_mapM hitems⟩
      | _ => rw [hdata] at h; cases h
    · rw [Envelope.toFrame, if_neg hid, if_neg hlist] at h
      cases h

end PrintClient
