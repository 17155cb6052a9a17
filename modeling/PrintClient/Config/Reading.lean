import PrintClient.Config.Profile
import PrintClient.Toml.Document

/-!
# Reading a configuration from its sources

Built-in values, a file and the environment are laid over each other, and the result is read as a
`Config`. Entries are visited in key order, so the first fault in that order is the one reported;
entries nobody knows are passed over. A record may also be written as the list of its fields.

* `readDefaults`, `readProfile`, `Config.ofSetting`: records from settings;
* `Config.load`: a configuration from a file and the environment.
-/

namespace PrintClient.Config

/-! ### Single settings -/

/-- A text. -/
def readText : Setting → Except Fault String
  | .text s => .ok s
  | s => .error ⟨[], .wrongType s.found .text⟩

/-- A whole number below a bound. -/
def readWord (bound : Nat) (wanted : Wanted) (s : Setting) : Except Fault Nat :=
  match s with
  | .signed i =>
    if 0 ≤ i ∧ i < bound then .ok i.toNat else .error ⟨[], .outOfRange s.found wanted⟩
  | .unsigned n => if n < bound then .ok n else .error ⟨[], .outOfRange s.found wanted⟩
  | _ => .error ⟨[], .wrongType s.found wanted⟩

/-- A number of seconds. -/
def readSeconds (s : Setting) : Except Fault Nat := readWord UInt64.size .word64 s

/-- A port number. -/
def readPort (s : Setting) : Except Fault UInt16 :=
  (readWord UInt16.size .word16 s).map UInt16.ofNat

/-- The numbers of seconds in a list, counted from the given index. -/
def readSecondsFrom (index : Nat) : List Setting → Except Fault (List Nat)
  | [] => .ok []
  | s :: rest => do
    let n ← (readSeconds s).mapError (Fault.under (toString index))
    let ns ← readSecondsFrom (index + 1) rest
    return n :: ns

/-- A list of numbers of seconds. -/
def readSecondsList : Setting → Except Fault (List Nat)
  | .list items => readSecondsFrom 0 items
  | s => .error ⟨[], .wrongType s.found .sequence⟩

/-! ### Records -/

/-- The entries of the defaults, put into the defaults so far. -/
def readDefaultsEntries (d : Defaults) : List (String × Setting) → Except Fault Defaults
  | [] => .ok d
  | (key, s) :: rest =>
    if key = "backoff_secs" then do
      let backoff ← (readSecondsList s).mapError (Fault.under key)
      readDefaultsEntries { d with backoff } rest
    else if key = "request_timeout_secs" then do
      let requestTimeout ← (readSeconds s).mapError (Fault.under key)
      readDefaultsEntries { d with requestTimeout } rest
    else readDefaultsEntries d rest

/-- One field of a record in list form, or its default. -/
def readItem {α : Type} (read : Setting → Except Fault α) (default : Except Fault α) (index : Nat)
    (items : List Setting) : Except Fault α :=
  match items[index]? with
  | some s => (read s).mapError (Fault.under (toString index))
  | none => default

/-- The defaults in list form: the time for a response, then the delays. -/
def readDefaultsItems (items : List Setting) : Except Fault Defaults := do
  let requestTimeout ← readItem readSeconds (.ok Defaults.builtin.requestTimeout) 0 items
  let backoff ← readItem readSecondsList (.ok Defaults.builtin.backoff) 1 items
  return ⟨requestTimeout, backoff⟩

/-- The defaults. -/
def readDefaults : Setting → Except Fault Defaults
  | .table entries => readDefaultsEntries .builtin entries
  | .list items => readDefaultsItems items
  | s => .error ⟨[], .wrongType s.found (.record "Defaults")⟩

/-- The entries of a profile, put into the profile so far; `hosted` tells whether the host is among
them. -/
def readProfileEntries (hosted : Bool) (p : Profile) :
    List (String × Setting) → Except Fault Profile
  | [] => if hosted then .ok p else .error ⟨[], .missingField "host"⟩
  | (key, s) :: rest =>
    if key = "api_key" then do
      let apiKey ← (readText s).mapError (Fault.under key)
      readProfileEntries hosted { p with apiKey := some apiKey } rest
    else if key = "api_key_env" then do
      let apiKeyEnv ← (readText s).mapError (Fault.under key)
      readProfileEntries hosted { p with apiKeyEnv := some apiKeyEnv } rest
    else if key = "host" then do
      let host ← (readText s).mapError (Fault.under key)
      readProfileEntries true { p with host } rest
    else if key = "port" then do
      let port ← (readPort s).mapError (Fault.under key)
      readProfileEntries hosted { p with port } rest
    else if key = "request_timeout_secs" then do
      let requestTimeout ← (readSeconds s).mapError (Fault.under key)
      readProfileEntries hosted { p with requestTimeout := some requestTimeout } rest
    else readProfileEntries hosted p rest

/-- A profile in list form. Only the port has a default there. -/
def readProfileItems (items : List Setting) : Except Fault Profile := do
  let missing {α : Type} (index : Nat) : Except Fault α := .error ⟨[], .tooShort index "Profile" 5⟩
  let host ← readItem readText (missing 0) 0 items
  let port ← readItem readPort (.ok defaultPort) 1 items
  let apiKey ← readItem readText (missing 2) 2 items
  let apiKeyEnv ← readItem readText (missing 3) 3 items
  let requestTimeout ← readItem readSeconds (missing 4) 4 items
  return ⟨host, port, some apiKey, some apiKeyEnv, some requestTimeout⟩

/-- A profile. -/
def readProfile : Setting → Except Fault Profile
  | .table entries => readProfileEntries false (.ofHost "") entries
  | .list items => readProfileItems items
  | s => .error ⟨[], .wrongType s.found (.record "Profile")⟩

/-- The profiles of a table, in key order. -/
def readProfileTable : List (String × Setting) → Except Fault (Dict Profile)
  | [] => .ok []
  | (key, s) :: rest => do
    let p ← (readProfile s).mapError (Fault.under key)
    let ps ← readProfileTable rest
    return (key, p) :: ps

/-- A table of profiles. -/
def readProfiles : Setting → Except Fault (Dict Profile)
  | .table entries => readProfileTable entries
  | s => .error ⟨[], .wrongType s.found .mapping⟩

/-- The entries of a configuration, put into the configuration so far. -/
def readEntries (c : Config) : List (String × Setting) → Except Fault Config
  | [] => .ok c
  | (key, s) :: rest =>
    if key = "default_profile" then do
      let defaultProfile ← (readText s).mapError (Fault.under key)
      readEntries { c with defaultProfile } rest
    else if key = "defaults" then do
      let defaults ← (readDefaults s).mapError (Fault.under key)
      readEntries { c with defaults } rest
    else if key = "profiles" then do
      let profiles ← (readProfiles s).mapError (Fault.under key)
      readEntries { c with profiles } rest
    else readEntries c rest

/-- A configuration from settings. -/
def ofSetting : Setting → Except Fault Config
  | .table entries => readEntries .builtin entries
  | s => .error ⟨[], .wrongType s.found (.record "Config")⟩

/-! ### Sources -/

/-- The built-in settings, which lie below all others. -/
def builtinSetting : Setting :=
  .table [
    ("default_profile", .text Config.builtin.defaultProfile),
    ("defaults", .table [
      ("backoff_secs", .list (Defaults.builtin.backoff.map .unsigned)),
      ("request_timeout_secs", .unsigned Defaults.builtin.requestTimeout)]),
    ("profiles", .table [])]

/-- The settings of a file; a missing file has none. -/
def ofFile : Option String → Except Fault Setting
  | none => .ok (.table [])
  | some text =>
    match Toml.parse? text with
    | some s => .ok s
    | none => .error ⟨[], .syntaxError text⟩

/-- The uppermost layer that has a setting at the end of a path. -/
def sourceOf (file envSettings : Setting) (path : List String) : Source :=
  if envSettings.reaches path then .environment else if file.reaches path then .file else .builtin

/-- A fault of some settings, as an error of the source that it comes from. -/
def Fault.asError (file envSettings : Setting) (f : Fault) : ConfigError :=
  .unreadable (sourceOf file envSettings f.path) f

/-- The configuration that the built-in values, a file and the environment make together, the later
ones over the earlier. -/
def load (file : Option String) (env : Environment) : Except ConfigError Config := do
  let settings ← (ofFile file).mapError (.unreadable .file)
  let envSettings := ofEnvironment env
  (ofSetting ((builtinSetting.overlay settings).overlay envSettings)).mapError
    (Fault.asError settings envSettings)

end PrintClient.Config
