import PrintClient.Config.Fault
import PrintClient.Failure

/-!
# Problems that end the program

A `Problem` is why a command did not do what it was asked. It is shown as a `Report`: a message, the
problem's code and advice where there are any, and it decides the exit code of the program.

* `Problem.ofFailure`, `Problem.ofConfigError`: problems from failures of the parts below;
* `Problem.message`, `code`, `help`, `exitCode`: what is shown and how the program ends;
* `Problem.report`: the whole text.
-/

namespace PrintClient.CommandLine

/-- Why a command failed. -/
inductive Problem where
  /-- The first attempt to connect failed. -/
  | connectionFailed (server reason : String)
  /-- There was no login in time. -/
  | timeout (seconds : Nat)
  | authFailed (profile : String)
  | rejected (action : String)
  | uploadRejected (status : Nat)
  /-- Any other failure of an exchange with the server. -/
  | exchange (failure : Failure)
  | noCredentials (profile : String)
  | profileNotFound (name : String) (available : String)
  | noConfig (path : String)
  | validation (field reason : String)
  /-- Any other error of the configuration. -/
  | config (error : ConfigError)
  | file (fault : FileFault)
  /-- Data on the command line that are no JSON text. -/
  | json (fault : Json.Fault)
  deriving DecidableEq

namespace Problem

/-- The problem that a failure of an exchange is. -/
def ofFailure : Failure → Problem
  | .notOk action => .rejected action
  | .serverError status => .uploadRejected status
  | .file fault => .file fault
  | failure => .exchange failure

/-- The problem that an error of the configuration is. -/
def ofConfigError : ConfigError → Problem
  | .noCredentials profile => .noCredentials profile
  | .validation field reason => .validation field reason
  | error => .config error

/-- The problem in words, with those of the readers of the configuration where it quotes them. -/
def message (words : Config.Wording) : Problem → String
  | .connectionFailed server reason =>
    "Could not connect to Repetier-Server at " ++ server ++ ": " ++ reason
  | .timeout seconds => "No login within " ++ toString seconds ++ "s"
  | .authFailed _ => "Authentication failed"
  | .rejected action => "Server refused '" ++ action ++ "'"
  | .uploadRejected status => "Upload rejected with HTTP " ++ toString status
  | .exchange failure => failure.message
  | .noCredentials profile => "No credentials configured for profile '" ++ profile ++ "'"
  | .profileNotFound name _ => "Profile '" ++ name ++ "' not found in configuration"
  | .noConfig _ => "No server configured"
  | .validation field reason => "Invalid value for " ++ field ++ ": " ++ reason
  | .config error => error.message words
  | .file fault => fault.message
  | .json fault => "Invalid JSON payload: " ++ fault.message

/-- The code by which a kind of problem can be looked up. -/
def code : Problem → Option String
  | .connectionFailed .. => some "replink::connection_failed"
  | .timeout _ => some "replink::timeout"
  | .authFailed _ => some "replink::auth_failed"
  | .rejected _ => some "replink::rejected"
  | .uploadRejected _ => some "replink::upload_rejected"
  | .exchange _ => some "replink::api"
  | .noCredentials _ => some "replink::no_credentials"
  | .profileNotFound .. => some "replink::profile_not_found"
  | .noConfig _ => some "replink::no_config"
  | .validation .. => some "replink::validation"
  | .config _ => some "replink::config"
  | .file _ => none
  | .json _ => some "replink::json"

/-- What to do about a problem. -/
def help : Problem → Option String
  | .connectionFailed .. =>
    some "Check that the server is running and reachable, and that the port is right."
  | .timeout _ => some "Increase the wait with --timeout or check the server's responsiveness."
  | .authFailed profile =>
    some ("The server refused the API key of profile '" ++ profile ++
      "'.\nFind the key under Global Settings > Connectivity on the server.")
  | .uploadRejected _ => some "Check that the printer slug exists: replink printers"
  | .noCredentials _ =>
    some "Set api_key or api_key_env in the profile,\nor pass --api-key / set REPLINK_API_KEY."
  | .profileNotFound _ available => some ("Available profiles: " ++ available)
  | .noConfig path =>
    some ("Pass --host and --api-key, or create a profile.\nExpected at: " ++ path)
  | .json _ =>
    some "--data expects a JSON object, e.g. '\x7b\x22cmd\x22:\x22G28\x22\x7d'"
  | _ => none

/-- The exit code of the program after a problem. -/
def exitCode : Problem → Nat
  | .connectionFailed .. => 7
  | .timeout _ => 8
  | .authFailed _ | .noCredentials _ => 3
  | .validation .. | .profileNotFound .. | .noConfig _ | .json _ => 2
  | .exchange failure =>
    match failure.kind with
    | .transport => 7
    | .timeout => 8
    | .protocolViolation => 9
    | _ => 1
  | _ => 1

/-- What a problem comes from, where its message repeats the words of another part. -/
def causes : Problem → List String
  | .exchange (.invalidUrl fault) => [fault.message]
  | .exchange (.http fault) => [fault.message]
  | .json fault => [fault.message]
  | _ => []

/-- The whole text that is shown for a problem. -/
def report (p : Problem) (words : Config.Wording) : String :=
  p.message words ++ "\n    Diagnostic severity: error\n" ++
    String.join (p.causes.map fun cause => "    Caused by: " ++ cause ++ "\n") ++
    (match p.help with | some text => "diagnostic help: " ++ text ++ "\n" | none => "") ++
    (match p.code with | some text => "diagnostic code: " ++ text ++ "\n" | none => "")

end Problem

end PrintClient.CommandLine
