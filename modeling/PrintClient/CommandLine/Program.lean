import PrintClient.CommandLine.Arguments
import PrintClient.CommandLine.Login
import PrintClient.Config.Location
import PrintClient.Upload

/-!
# The program

A run of the program reads its command line, finds its server where the command needs one, does what
the command asks and tells how it ended. What lies outside, such as the environment, the files and
the way to the server, is given as `Surroundings`.

* `Wish`, `Command.wish?`: what a command asks of a session that is logged in;
* `Surroundings`, `run`: a whole run of the program.
-/

namespace PrintClient.CommandLine

/-- The name and version of the program, as it prints them. -/
def versionText : String := Refusal.displayVersion.message ++ "\n"

/-- A value as it is printed. -/
def OutputFormat.render (format : OutputFormat) (value : Json) : String :=
  match format with
  | .json => value.pretty
  | .jsonCompact => value.compact

/-- A value as a line of output. -/
def OutputFormat.line (format : OutputFormat) (value : Json) : String := format.render value ++ "\n"

/-! ### What commands ask for -/

/-- What a command asks of a session that is logged in. -/
inductive Wish where
  /-- The response to a request, if there is one to be made. -/
  | ask (request : Except Problem Request)
  /-- The events with these names, as they come. -/
  | watch (events : List String)

/-- The data of a request as they are given on the command line. -/
def readData (text : String) : Except Problem (Dict Json) :=
  match Json.parse text with
  | .ok (.object members) => .ok members
  | .ok other => .error (.validation "--data" ("expected a JSON object, got " ++ other.compact))
  | .error fault => .error (.json fault)

/-- A request for a printer, if one is named. -/
def forPrinter? (request : Request) : Option String → Request
  | some printer => request.withPrinter printer
  | none => request

/-- The request of any action. -/
def callRequest (action : String) (printer data : Option String) : Except Problem Request :=
  match data with
  | none => .ok (forPrinter? (.named action) printer)
  | some text =>
    (readData text).map fun members => forPrinter? ((Request.named action).withData members) printer

/-- What a command asks of its session, if it needs one. -/
def Command.wish? : Command → Option Wish
  | .printers => some (.ask (.ok Action.listPrinters.request))
  | .watch events => some (.watch (if events = [] then PushEvent.commonNames else events))
  | .send printer gcode => some (.ask (.ok (Action.sendCommand printer gcode).request))
  | .call action printer data => some (.ask (callRequest action printer data))
  | .upload .. | .configPath | .configShow => none

/-- An event as it is printed. -/
def eventValue (e : PushEvent) : Json :=
  .object [("data", e.data), ("event", .string e.name), ("printer", .string e.printer)]

/-- The model that a file is sent as; without a name of its own it is called like the file. -/
def uploadModel (printer file : String) (name : Option String) (group : String) :
    Except Problem Model :=
  match name.or (Path.ofText file).fileStem? with
  | some name => .ok ⟨printer, group, name⟩
  | none => .error (.validation "file" ("'" ++ file ++ "' has no file name"))

/-! ### A run -/

/-- What lies around the program. -/
structure Surroundings where
  env : Config.Environment
  /-- The text of the configuration file, if there is one. -/
  configFile : Option String
  /-- How those who read the configuration put what is wrong with it. -/
  wording : Config.Wording
  files : FileOpener
  /-- A boundary that no body has had yet. -/
  boundary : String
  post : HttpClient
  /-- What a session comes to that is started for a wish and may take so many seconds to log in: the
  values to print. -/
  converse : Resolved → Nat → Wish → Except Problem (List Json)

/-- Why a run ended without doing what it was asked. -/
inductive Stop where
  | refusal (refusal : Refusal)
  | problem (problem : Problem)
  deriving DecidableEq

/-- What a run of the program comes to: its output, what it says beside it, why it stopped if it
did, and the uploads that it handed to the HTTP client. -/
structure Outcome where
  stdout : String
  remark : String
  stop : Option Stop
  posted : List UploadRequest

/-- A run that did what it was asked. -/
def Outcome.done (stdout : String) : Outcome := ⟨stdout, "", none, []⟩

/-- A run that met a problem. -/
def Outcome.failed (p : Problem) : Outcome := ⟨"", "", some (.problem p), []⟩

/-- The exit code of a run. -/
def Outcome.exitCode (o : Outcome) : Nat :=
  match o.stop with
  | none => 0
  | some (.refusal r) => r.exitCode
  | some (.problem p) => p.exitCode

/-- What a run says beside its output. -/
def Outcome.stderr (o : Outcome) (words : Config.Wording) : String :=
  match o.stop with
  | none => o.remark
  | some (.refusal .displayVersion) => ""
  | some (.refusal r) => r.message ++ "\n"
  | some (.problem p) => p.report words ++ "\n"

/-- The server of a command. -/
def Surroundings.resolve (s : Surroundings) (o : Options) : Except Problem Resolved :=
  match Config.load s.configFile s.env with
  | .ok c => CommandLine.resolve o c s.env
  | .error e => .error (.ofConfigError e)

/-- Shows the configuration in force. -/
def runShow (s : Surroundings) (o : Options) : Outcome :=
  match Config.load s.configFile s.env with
  | .ok c => .done (showConfig c (activeProfile o c))
  | .error e => .failed (.ofConfigError e)

/-- Sends a file to a printer. -/
def runUpload (s : Surroundings) (o : Options) (printer file : String) (name : Option String)
    (group : String) : Outcome :=
  let exchange : ExceptT Problem (StateM (List UploadRequest)) Unit := do
    let r ← liftExcept (s.resolve o)
    let model ← liftExcept (uploadModel printer file name group)
    (upload s.files s.post r.endpoint model s.boundary (.ofText file)).adapt Problem.ofFailure
  match exchange.run.run [] with
  | (.ok (), posted) => ⟨"", "Uploaded " ++ file ++ " to " ++ printer ++ "\n", none, posted⟩
  | (.error p, posted) => { Outcome.failed p with posted }

/-- Prints what a session comes to; events are always printed on one line each. -/
def runWish (s : Surroundings) (o : Options) (wish : Wish) : Outcome :=
  let format := match wish with
    | .ask _ => o.output
    | .watch _ => .jsonCompact
  let result := do
    let r ← s.resolve o
    s.converse r o.timeout.toNat wish
  match result with
  | .ok values => .done (String.join (values.map format.line))
  | .error p => .failed p

/-- Does what a command line asks for. -/
def runCommand (s : Surroundings) (i : Invocation) : Outcome :=
  match i.command with
  | .configPath => .done (Config.location s.env ++ "\n")
  | .configShow => runShow s i.options
  | .upload printer file name group => runUpload s i.options printer file name group
  | command =>
    match command.wish? with
    | some wish => runWish s i.options wish
    | none => .done ""

/-- A whole run of the program. -/
def run (s : Surroundings) (args : List String) : Outcome :=
  match parse args s.env with
  | .ok i => runCommand s i
  | .error .displayVersion => ⟨versionText, "", some (.refusal .displayVersion), []⟩
  | .error r => ⟨"", "", some (.refusal r), []⟩

end PrintClient.CommandLine
