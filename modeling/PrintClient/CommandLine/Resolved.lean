import PrintClient.CommandLine.Command
import PrintClient.CommandLine.Problem
import PrintClient.Config.Location
import PrintClient.Config.Reading

/-!
# From options and configuration to a server

A command needs to know which server it talks to. The options decide over the profile, the profile
over the defaults; a server may also be given by options alone.

* `activeProfile`: the name of the profile in force;
* `resolve`: the endpoint and the times of a session;
* `showConfig`: the configuration in force as text, without keys.
-/

namespace PrintClient.CommandLine

/-- The server of a command, the name of the profile in force, and the times that a session keeps
to. -/
structure Resolved where
  profile : String
  endpoint : Endpoint
  session : SessionSettings
  deriving DecidableEq

/-- The name of the profile in force: the one asked for, or the default one. -/
def activeProfile (o : Options) (c : Config) : String := o.profile.getD c.defaultProfile

/-- The endpoint of a profile under the options. -/
def resolveProfile (o : Options) (p : Profile) (name : String) (env : Config.Environment) :
    Except Problem Endpoint :=
  let host := Text.trim (o.host.getD p.host)
  if host = "" then .error (.validation "host" "must not be empty")
  else
    match o.apiKey with
    | some key => .ok ⟨host, o.port.getD p.port, key⟩
    | none =>
      match p.resolveKey name env with
      | .ok key => .ok ⟨host, o.port.getD p.port, key⟩
      | .error e => .error (.ofConfigError e)

/-- The endpoint of the options alone. -/
def resolveAlone (o : Options) (name : String) (env : Config.Environment) :
    Except Problem Endpoint :=
  match o.host, o.apiKey with
  | none, _ => .error (.noConfig (Config.location env))
  | some _, none => .error (.noCredentials name)
  | some host, some key => .ok ⟨host, o.port.getD defaultPort, key⟩

/-- The names of all profiles. -/
def available (c : Config) : String :=
  if c.profiles = [] then "(none)" else ", ".intercalate (Dict.keys c.profiles)

/-- The server under the options and the configuration. A profile asked for by name must exist. -/
def resolve (o : Options) (c : Config) (env : Config.Environment) : Except Problem Resolved :=
  let name := activeProfile o c
  match Dict.find? name c.profiles with
  | some p =>
    (resolveProfile o p name env).map fun endpoint => ⟨name, endpoint, c.defaults.session (some p)⟩
  | none =>
    if o.profile.isSome then .error (.profileNotFound name (available c))
    else (resolveAlone o name env).map fun endpoint => ⟨name, endpoint, c.defaults.session none⟩

/-- A text setting. -/
def textLine (key value : String) : String := key ++ " = \x22" ++ value ++ "\x22\n"

/-- A profile as text; a key is only said to be there. -/
def showProfile (name : String) (p : Profile) : String :=
  "\n[profiles." ++ name ++ "]\n" ++ textLine "host" p.host ++
    "port = " ++ toString p.port.toNat ++ "\n" ++
    (if p.apiKey.isSome then textLine "api_key" "****" else "") ++
    (match p.apiKeyEnv with | some source => textLine "api_key_env" source | none => "") ++
    (match p.requestTimeout with
      | some seconds => "request_timeout_secs = " ++ toString seconds ++ "\n"
      | none => "")

/-- The configuration in force as text. -/
def showConfig (c : Config) (active : String) : String :=
  "# active profile: " ++ active ++ "\n" ++ textLine "default_profile" c.defaultProfile ++
    "\n[defaults]\nrequest_timeout_secs = " ++ toString c.defaults.requestTimeout ++
    "\nbackoff_secs = [" ++ ", ".intercalate (c.defaults.backoff.map fun n => toString n) ++
    "]\n" ++
    String.join (c.profiles.map fun p => showProfile p.1 p.2)

end PrintClient.CommandLine
