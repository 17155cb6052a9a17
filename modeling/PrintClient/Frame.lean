import PrintClient.Failure
import PrintClient.Json.Reader

/-!
# Inbound frames

A text frame from the server is a response to a request, a batch of events, or neither. The envelope
is read token by token, so that members nobody asked for need only be well-formed, and the first
fault on the way is the one reported; the elements of a batch are checked all together before any is
used.

* `Envelope`, `Envelope.parse`: the members of an inbound message with their defaults;
* `PushEvent`, `PushEvent.ofJson`, `PushEvent.listOfJson`: the elements of an event batch;
* `Frame`, `Frame.parse`: what a text frame means.
-/

namespace PrintClient

open Json (Token Fault Step)

/-! ### The envelope -/

/-- The members of an inbound message. -/
structure Envelope where
  callbackId : Int
  eventList : Bool
  data : Json

namespace Envelope

/-- The message without members: no response, no events. -/
def empty : Envelope := ⟨-1, false, .null⟩

/-- The members that a message can have, in the order of its list form. -/
inductive Member where
  | callbackId
  | eventList
  | data
  deriving DecidableEq, Repr

/-- The key of a member. -/
def Member.key : Member → String
  | .callbackId => "callback_id"
  | .eventList => "eventList"
  | .data => "data"

/-- The members in the order of the list form. -/
def members : List Member := [.callbackId, .eventList, .data]

/-- The member with a key. -/
def member? (key : String) : Option Member := members.find? fun m => m.key = key

/-- Reads the value of a member. The envelope is one level of nesting, so its data may nest one
level less. -/
def readMember (e : Envelope) (m : Member) (ts : List Token) : Step Envelope :=
  match m with
  | .callbackId =>
    match Json.readSignedWord ts with
    | .ok (i, rest) => .ok ({ e with callbackId := i }, rest)
    | .error f => .error f
  | .eventList =>
    match Json.readBool ts with
    | .ok (b, rest) => .ok ({ e with eventList := b }, rest)
    | .error f => .error f
  | .data =>
    match Json.readValue (2 * ts.length + 1) (Json.nestingLimit - 1) ts with
    | .ok (v, rest) => .ok ({ e with data := v }, rest)
    | .error f => .error f

/-- The object form from one member on; `seen` lists the members read before. -/
def readObject (fuel : Nat) (e : Envelope) (seen : List Member) (ts : List Token) : Step Envelope :=
  match fuel with
  | 0 => .error .malformed
  | fuel + 1 =>
    match ts with
    | .string (some key) :: after =>
      match member? key with
      | some m =>
        if m ∈ seen then .error (.duplicateField m.key)
        else match after with
          | .colon :: rest =>
            match readMember e m rest with
            | .ok (e, .comma :: rest) => readObject fuel e (m :: seen) rest
            | .ok (e, .closeBrace :: rest) => .ok (e, rest)
            | .ok _ => .error .malformed
            | .error f => .error f
          | _ => .error .malformed
      | none =>
        match after with
        | .colon :: rest =>
          match Json.skipValue (2 * rest.length + 1) rest with
          | .ok (.comma :: rest) => readObject fuel e seen rest
          | .ok (.closeBrace :: rest) => .ok (e, rest)
          | .ok _ => .error .malformed
          | .error f => .error f
        | _ => .error .malformed
    | _ => .error .malformed

/-- The list form from one item on, the items being these members in order. -/
def readList (e : Envelope) (ms : List Member) (ts : List Token) : Step Envelope :=
  match ms with
  | [] => .error .malformed
  | m :: ms =>
    match readMember e m ts with
    | .ok (e, .comma :: rest) => readList e ms rest
    | .ok (e, .closeBracket :: rest) => .ok (e, rest)
    | .ok _ => .error .malformed
    | .error f => .error f

/-- An envelope in object or list form. -/
def read (ts : List Token) : Step Envelope :=
  match ts with
  | .openBrace :: .closeBrace :: rest => .ok (empty, rest)
  | .openBrace :: rest => readObject rest.length empty [] rest
  | .openBracket :: .closeBracket :: rest => .ok (empty, rest)
  | .openBracket :: rest => readList empty members rest
  | _ => .error (Json.unexpected ts (.record "InboundMessage"))

/-- The envelope of a whole text. -/
def parse (text : String) : Except Fault Envelope :=
  match read (Json.tokens text) with
  | .ok (e, []) => .ok e
  | .ok _ => .error .malformed
  | .error f => .error f

end Envelope

/-! ### Event batches -/

/-- One event that the server pushed; the printer is empty for an event of the whole server. -/
structure PushEvent where
  name : String
  printer : String
  data : Json
  deriving DecidableEq

namespace PushEvent

/-- A text. -/
def text : Json → Except Fault String
  | .string s => .ok s
  | v => .error (.wrongKind (Json.found v) .text)

/-- A text that may be left out by writing `null`. -/
def optionalText : Json → Except Fault String
  | .null => .ok ""
  | v => text v

/-- Checks the members of an event in their order; `name` and `e` hold what was found before. -/
def ofMembers (name : Option String) (e : PushEvent) : List (String × Json) → Except Fault PushEvent
  | [] =>
    match name with
    | some n => .ok { e with name := n }
    | none => .error (.missingField "event")
  | (key, v) :: rest =>
    if key = "event" then
      match text v with
      | .ok s => ofMembers (some s) e rest
      | .error f => .error f
    else if key = "printer" then
      match optionalText v with
      | .ok s => ofMembers name { e with printer := s } rest
      | .error f => .error f
    else if key = "data" then ofMembers name { e with data := v } rest
    else ofMembers name e rest

/-- An event in list form: name, printer and data, of which the last two may be missing. -/
def ofItems (items : List Json) : Except Fault PushEvent :=
  match items with
  | [] => .error (.tooShort 0 "PushEvent" 3)
  | name :: rest => do
    let name ← text name
    let printer ← optionalText (rest.headD .null)
    let data := (rest.drop 1).headD .null
    if 3 < items.length then .error (.tooLong items.length) else .ok ⟨name, printer, data⟩

/-- An event in object or list form. -/
def ofJson : Json → Except Fault PushEvent
  | .object members => ofMembers none ⟨"", "", .null⟩ members
  | .array items => ofItems items
  | v => .error (.wrongKind (Json.found v) (.record "PushEvent"))

/-- A batch of events; one malformed element spoils the whole batch. -/
def listOfJson : Json → Except Fault (List PushEvent)
  | .array items => items.mapM ofJson
  | v => .error (.wrongKind (Json.found v) .sequence)

/-! ### Names of events -/

/-- A temperature was measured. -/
def temperature : String := "temp"

/-- Printers came, went or changed their state. -/
def printerListChanged : String := "printerListChanged"

/-- The configuration of a printer changed. -/
def configChanged : String := "config"

/-- The groups of stored models changed. -/
def modelGroupsChanged : String := "modelGroupListChanged"

/-- The list of jobs changed. -/
def jobsChanged : String := "jobsChanged"

/-- A job was started. -/
def jobStarted : String := "jobStarted"

/-- A job came to its end. -/
def jobFinished : String := "jobFinished"

/-- A job was stopped before its end. -/
def jobKilled : String := "jobKilled"

/-- The names of the common events. -/
def commonNames : List String :=
  [temperature, printerListChanged, configChanged, modelGroupsChanged, jobsChanged, jobStarted,
    jobFinished, jobKilled]

end PushEvent

/-! ### Frames -/

/-- What a text frame means. -/
inductive Frame where
  /-- The response to the request with this number. -/
  | response (callbackId : Nat) (data : Json)
  /-- A batch of events in their order. -/
  | events (batch : List PushEvent)
  /-- Neither a response nor a batch of events. -/
  | ignored
  deriving DecidableEq

/-- The meaning of an envelope: a number that is not negative makes a response, whatever else is
set. -/
def Envelope.toFrame (e : Envelope) : Except Violation Frame :=
  if 0 ≤ e.callbackId then .ok (.response e.callbackId.toNat e.data)
  else if e.eventList then
    match PushEvent.listOfJson e.data with
    | .ok batch => .ok (.events batch)
    | .error f => .error (.eventList f)
  else .ok .ignored

/-- The meaning of a text frame. -/
def Frame.parse (text : String) : Except Violation Frame :=
  match Envelope.parse text with
  | .ok e => e.toFrame
  | .error f => .error (.frame f)

end PrintClient
