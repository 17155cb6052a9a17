import PrintClient.Config.Environment
import PrintClient.Config.Fault
import PrintClient.Endpoint
import PrintClient.Session.Settings

/-!
# Configurations and profiles

A `Config` is what the sources of settings say once they are read: the default profile, the times
that hold for all sessions, and named profiles, each for one server. A profile gives an `Endpoint`,
and with the defaults also `SessionSettings`.

* `Config.lookup`: the profile with a name, or the default one;
* `Profile.resolveKey`: where the API key comes from;
* `Profile.endpoint`: the endpoint of a profile, if its values make one;
* `Defaults.session`: the times of a session under a profile.
-/

namespace PrintClient

/-- The times that hold unless a profile says otherwise, in seconds. -/
structure Defaults where
  requestTimeout : Nat
  backoff : List Nat
  deriving DecidableEq, Repr

/-- The times that hold unless a source says otherwise. -/
def Defaults.builtin : Defaults :=
  ⟨defaultRequestTimeout / 1000, defaultBackoff.map (· / 1000)⟩

/-- A named server. -/
structure Profile where
  host : String
  port : UInt16
  apiKey : Option String
  /-- The environment variable that holds the API key. -/
  apiKeyEnv : Option String
  /-- How long a response may take, in seconds. -/
  requestTimeout : Option Nat
  deriving DecidableEq

/-- The profile of a host without further settings. -/
def Profile.ofHost (host : String) : Profile := ⟨host, defaultPort, none, none, none⟩

/-- What the sources of settings say. -/
structure Config where
  defaultProfile : String
  defaults : Defaults
  profiles : Dict Profile
  deriving DecidableEq

/-- The configuration without any source. -/
def Config.builtin : Config := ⟨"default", .builtin, []⟩

/-- The profile with a name, or the default one if no name is given; `path` is where profiles would
be found. -/
def Config.lookup (c : Config) (name : Option String) (path : String) :
    Except ConfigError (String × Profile) :=
  let name := name.getD c.defaultProfile
  match Dict.find? name c.profiles with
  | some p => .ok (name, p)
  | none => .error (.unknownProfile name path)

namespace Profile

/-- The API key: from the variable that the profile names, if it is set, else from the profile
itself. -/
def resolveKey (p : Profile) (name : String) (env : Config.Environment) :
    Except ConfigError String :=
  match p.apiKeyEnv.bind fun source => Dict.find? source env with
  | some key => .ok key
  | none =>
    match p.apiKey with
    | some key => .ok key
    | none => .error (.noCredentials name)

/-- The endpoint of a profile: a host that is not blank, without blanks around it, a port other than
zero, and a key. -/
def endpoint (p : Profile) (name : String) (env : Config.Environment) :
    Except ConfigError Endpoint :=
  if Text.trim p.host = "" then .error (.validation "host" "must not be empty")
  else if p.port = 0 then .error (.validation "port" "must be between 1 and 65535")
  else (p.resolveKey name env).map fun key => ⟨Text.trim p.host, p.port, key⟩

end Profile

/-- The times of a session under a profile, if there is one; a response gets at least one second. -/
def Defaults.session (d : Defaults) (p : Option Profile) : SessionSettings :=
  let timeout := (p.bind Profile.requestTimeout).getD d.requestTimeout
  ⟨max timeout 1 * 1000, d.backoff.map (· * 1000)⟩

end PrintClient
