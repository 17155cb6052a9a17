import PrintClient.Frame
import PrintClient.Request

/-!
# Named actions of the server

An `Action` is something that one asks of the server, or of one of its printers. `Action.request` is
the message to send for it and `Action.answer` what the data of the response mean.
-/

namespace PrintClient

/-- What can be asked of the server; all but the first concern one printer. -/
inductive Action where
  /-- All printers known to the server. -/
  | listPrinters
  /-- The full configuration of a printer. -/
  | printerConfig (printer : String)
  /-- The names of the groups that a printer's models are in. -/
  | modelGroups (printer : String)
  /-- The stored models of a printer. -/
  | models (printer : String)
  | addModelGroup (printer group : String)
  /-- Deletes a group, with the models in it if so asked. -/
  | deleteModelGroup (printer group : String) (deleteModels : Bool)
  | removeModel (printer : String) (id : UInt64)
  | moveModelToGroup (printer : String) (id : UInt64) (group : String)
  /-- Queues a line of G-code on a printer. -/
  | sendCommand (printer gcode : String)
  /-- Any other request, whose data are handed on as they are. -/
  | raw (request : Request)
  deriving DecidableEq

namespace Action

/-- The request that asks for an action. -/
def request : Action → Request
  | .listPrinters => .named "listPrinter"
  | .printerConfig p => .forPrinter "getPrinterConfig" p
  | .modelGroups p => .forPrinter "listModelGroups" p
  | .models p => .forPrinter "listModels" p
  | .addModelGroup p group =>
    (Request.forPrinter "addModelGroup" p).entry "groupName" (.string group)
  | .deleteModelGroup p group deleteModels =>
    ((Request.forPrinter "delModelGroup" p).entry "groupName" (.string group)).entry
      "delFiles" (.bool deleteModels)
  | .removeModel p id => (Request.forPrinter "removeModel" p).entry "id" (.ofWord id)
  | .moveModelToGroup p id group =>
    ((Request.forPrinter "moveModelFileToGroup" p).entry "id" (.ofWord id)).entry
      "groupName" (.string group)
  | .sendCommand p gcode => (Request.forPrinter "send" p).entry "cmd" (.string gcode)
  | .raw request => request

/-- The texts of a list, all of them or the first fault. -/
def texts : Json → Except Json.Fault (List String)
  | .array items => items.mapM PushEvent.text
  | v => .error (.wrongKind (Json.found v) .sequence)

/-- A response that only says whether the action was accepted. -/
def accepted (a : Action) (data : Json) : Except Failure Json :=
  (checkOk a.request.action data).map fun _ => .null

/-- What the data of the response mean: the value asked for, or why there is none. -/
def answer (a : Action) (data : Json) : Except Failure Json :=
  match a with
  | .modelGroups _ =>
    match checkOk a.request.action data with
    | .error f => .error f
    | .ok _ =>
      match texts ((data.member? "groupNames").getD .null) with
      | .ok names => .ok (.array (names.map .string))
      | .error f => .error (.violation (.groupNames a.request.action f))
  | .models _ => .ok ((data.member? "data").getD .null)
  | .addModelGroup .. | .deleteModelGroup .. | .moveModelToGroup .. => a.accepted data
  | _ => .ok data

end Action

end PrintClient
