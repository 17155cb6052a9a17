import PrintClient.Failure
import PrintClient.Json.Printer

/-!
# Requests to the server

A `Request` names an action and carries a mapping of data and, for an action of one printer, its
slug. The number that ties a response to its request is no part of it: `Request.encode` puts it into
the text when the message is written.

* `Request.named`, `forPrinter`, `entry`, `withData`, `withPrinter`: how requests are built;
* `Request.encode`: the text of the message;
* `Request.login`, `checkOk`: the first request of every connection, and its answer.
-/

namespace PrintClient

/-- An action with its data and the printer it is meant for. -/
structure Request where
  action : String
  data : Dict Json
  printer : Option String
  deriving DecidableEq

namespace Request

/-- A request without data and printer. -/
def named (action : String) : Request := ⟨action, [], none⟩

/-- The same request for one printer. -/
def withPrinter (r : Request) (printer : String) : Request := { r with printer := some printer }

/-- A request for one printer, without data. -/
def forPrinter (action printer : String) : Request := (named action).withPrinter printer

/-- The request with one more member of its data, or with the value of that member replaced. -/
def entry (r : Request) (key : String) (value : Json) : Request :=
  { r with data := Dict.insert key value r.data }

/-- The request with its data replaced. -/
def withData (r : Request) (data : Dict Json) : Request := { r with data }

/-- A member of a message whose value is already written. -/
def memberChars (key : String) (value : List Char) : List Char :=
  Json.stringChars key ++ ':' :: value

/-- The printer as one more member of a message, if there is one. -/
def printerChars : Option String → List Char
  | none => []
  | some printer => ',' :: memberChars "printer" (Json.stringChars printer)

/-- The message of a request under a callback number: action, data, printer and number, in this
order. -/
def encodeChars (r : Request) (callbackId : Nat) : List Char :=
  '\x7b' :: (memberChars "action" (Json.stringChars r.action) ++
    ',' :: (memberChars "data" (Json.compactChars (.object r.data)) ++
      (printerChars r.printer ++
        ',' :: (memberChars "callback_id" (Nat.toDigits 10 callbackId) ++ ['\x7d']))))

/-- The text of the message of a request under a callback number. -/
def encode (r : Request) (callbackId : Nat) : String := String.ofList (r.encodeChars callbackId)

/-- The request that opens every conversation; it carries the API key. -/
def login (apiKey : String) : Request := (named "login").entry "apikey" (.string apiKey)

end Request

/-- Whether a response tells that its action was accepted: `false` is a refusal, and a flag that is
missing or no truth value breaks the protocol. -/
def checkOk (action : String) (data : Json) : Except Failure Unit :=
  match (data.member? "ok").bind Json.toBool? with
  | some true => .ok ()
  | some false => .error (.notOk action)
  | none => .error (.violation (.noOkFlag action))

end PrintClient
