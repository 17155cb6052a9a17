import PrintClient.CommandLine.Command
import PrintClient.Config.Environment

/-!
# Reading a command line

The words of a command line are read from left to right, level by level: the program itself, a
command, and for one command a command below it. The common options may stand at every level; the
deepest place where one is given counts, then the environment, then its default. An option that
takes a value is only checked when the next option or word comes, so that an unknown option behind
it is reported first.

* `Refusal`: why a command line asks for nothing that can be done;
* `Level`: what may stand at one level;
* `parse`: the whole command line.
-/

namespace PrintClient.CommandLine

/-- Why a command line leads to no command. The first two are asked for. -/
inductive Refusal where
  | displayHelp
  | displayVersion
  /-- Nothing was asked for at all. -/
  | displayHelpOnMissing
  | missingSubcommand
  | invalidSubcommand
  | unknownArgument
  /-- An option without its value, or with one that is not among its choices. -/
  | invalidValue
  /-- A number that is none or too large. -/
  | valueValidation
  /-- A value for an option that takes none. -/
  | tooManyValues
  /-- An option given twice at one level. -/
  | argumentConflict
  | missingRequiredArgument
  deriving DecidableEq, Repr

/-- The exit code of the program after a refusal. -/
def Refusal.exitCode : Refusal → Nat
  | .displayHelp | .displayVersion => 0
  | _ => 2

/-- The refusal in words. -/
def Refusal.message : Refusal → String
  | .displayHelp | .displayHelpOnMissing => "replink [OPTIONS] <COMMAND>"
  | .displayVersion => "replink 0.1.0"
  | .missingSubcommand => "a command is missing"
  | .invalidSubcommand => "no such command"
  | .unknownArgument => "unexpected argument"
  | .invalidValue => "an option has no value that it can take"
  | .valueValidation => "a number is out of range"
  | .tooManyValues => "an option takes no value"
  | .argumentConflict => "an option is given twice"
  | .missingRequiredArgument => "a required argument is missing"

/-! ### Options -/

/-- The options by what they set. -/
inductive Flag where
  | profile
  | host
  | port
  | apiKey
  | output
  | verbose
  | timeout
  | help
  | version
  | printer
  | data
  | name
  | group
  deriving DecidableEq, Repr

namespace Flag

/-- The name of an option after two hyphens. -/
def long : Flag → String
  | .profile => "profile"
  | .host => "host"
  | .port => "port"
  | .apiKey => "api-key"
  | .output => "output"
  | .verbose => "verbose"
  | .timeout => "timeout"
  | .help => "help"
  | .version => "version"
  | .printer => "printer"
  | .data => "data"
  | .name => "name"
  | .group => "group"

/-- The letter of an option after one hyphen. -/
def short? : Flag → Option Char
  | .profile => some 'p'
  | .host => some 'H'
  | .output => some 'o'
  | .verbose => some 'v'
  | .help => some 'h'
  | .version => some 'V'
  | _ => none

/-- Whether an option takes a value. -/
def takesValue : Flag → Bool
  | .verbose | .help | .version => false
  | _ => true

/-- The options that may stand at every level. -/
def common : List Flag :=
  [.profile, .host, .port, .apiKey, .output, .verbose, .timeout, .help, .version]

end Flag

/-- What was given at one level. -/
structure Given where
  profile : Option String := none
  host : Option String := none
  port : Option UInt16 := none
  apiKey : Option String := none
  output : Option OutputFormat := none
  verbose : Option Nat := none
  timeout : Option UInt64 := none
  printer : Option String := none
  data : Option String := none
  name : Option String := none
  group : Option String := none

/-- A port number: a decimal number, of either sign, that fits a word of 16 bits. -/
def readPort (s : String) : Except Refusal UInt16 :=
  match Config.readSigned? s.toList with
  | some i =>
    if 0 ≤ i ∧ i < UInt16.size then .ok (UInt16.ofNat i.toNat) else .error .valueValidation
  | none => .error .valueValidation

/-- A number of seconds: a decimal number without a minus sign that fits a word of 64 bits. -/
def readSeconds (s : String) : Except Refusal UInt64 :=
  match Config.readUnsigned? s.toList with
  | some n => .ok (UInt64.ofNat n)
  | none => .error .valueValidation

/-- An output format. -/
def readFormat (s : String) : Except Refusal OutputFormat :=
  match OutputFormat.ofName? s with
  | some f => .ok f
  | none => .error .invalidValue

namespace Given

/-- A value that must not be there yet. -/
def once {α : Type} (old : Option α) (value : Except Refusal α) : Except Refusal (Option α) :=
  match old with
  | some _ => .error .argumentConflict
  | none => value.map some

/-- Takes the value of an option. -/
def set (g : Given) (f : Flag) (value : String) : Except Refusal Given :=
  match f with
  | .profile => (once g.profile (.ok value)).map fun v => { g with profile := v }
  | .host => (once g.host (.ok value)).map fun v => { g with host := v }
  | .port => (once g.port (readPort value)).map fun v => { g with port := v }
  | .apiKey => (once g.apiKey (.ok value)).map fun v => { g with apiKey := v }
  | .output => (once g.output (readFormat value)).map fun v => { g with output := v }
  | .timeout => (once g.timeout (readSeconds value)).map fun v => { g with timeout := v }
  | .printer => (once g.printer (.ok value)).map fun v => { g with printer := v }
  | .data => (once g.data (.ok value)).map fun v => { g with data := v }
  | .name => (once g.name (.ok value)).map fun v => { g with name := v }
  | .group => (once g.group (.ok value)).map fun v => { g with group := v }
  | .verbose | .help | .version => .ok g

/-- Takes an option without a value. -/
def raise (g : Given) (f : Flag) : Except Refusal Given :=
  match f with
  | .verbose => .ok { g with verbose := some (min (g.verbose.getD 0 + 1) 255) }
  | .help => .error .displayHelp
  | .version => .error .displayVersion
  | _ => .error .invalidValue

/-- Whether anything common was given. -/
def isEmpty (g : Given) : Bool :=
  g.profile.isNone && g.host.isNone && g.port.isNone && g.apiKey.isNone && g.output.isNone &&
    g.verbose.isNone && g.timeout.isNone

/-- What the environment says where nothing was given. -/
def orEnvironment (g : Given) (env : Config.Environment) : Except Refusal Given := do
  let port ← match g.port, Dict.find? "REPLINK_PORT" env with
    | none, some s => (readPort s).map some
    | p, _ => .ok p
  let timeout ← match g.timeout, Dict.find? "REPLINK_TIMEOUT" env with
    | none, some s => (readSeconds s).map some
    | t, _ => .ok t
  return { g with
    profile := g.profile.or (Dict.find? "REPLINK_PROFILE" env)
    host := g.host.or (Dict.find? "REPLINK_HOST" env)
    port
    apiKey := g.apiKey.or (Dict.find? "REPLINK_API_KEY" env)
    timeout }

/-- What was given at two levels; the deeper one counts. -/
def orElse (deep shallow : Given) : Given :=
  { deep with
    profile := deep.profile.or shallow.profile
    host := deep.host.or shallow.host
    port := deep.port.or shallow.port
    apiKey := deep.apiKey.or shallow.apiKey
    output := deep.output.or shallow.output
    verbose := deep.verbose.or shallow.verbose
    timeout := deep.timeout.or shallow.timeout }

/-- The common options. -/
def options (g : Given) : Options :=
  ⟨g.profile, g.host, g.port, g.apiKey, g.output.getD .json, g.verbose.getD 0,
    g.timeout.getD defaultTimeout⟩

end Given

/-! ### Levels -/

/-- The places of a command line. -/
inductive Level where
  | program
  | printers
  | watch
  | send
  | call
  | upload
  | config
  | configPath
  | configShow
  deriving DecidableEq, Repr

namespace Level

/-- The commands below a level by name. -/
def commands : Level → List (String × Level)
  | .program => [("printers", .printers), ("ls", .printers), ("watch", .watch), ("send", .send),
      ("call", .call), ("upload", .upload), ("config", .config)]
  | .config => [("path", .configPath), ("show", .configShow)]
  | _ => []

/-- The command with a name below a level. -/
def command? (l : Level) (name : String) : Option Level :=
  (l.commands.find? fun c => c.1 = name).map Prod.snd

/-- The options of a level: its own and the common ones. -/
def flags (l : Level) : List Flag :=
  (match l with
    | .call => [.printer, .data]
    | .upload => [.name, .group]
    | _ => []) ++ Flag.common

/-- The option with a name. -/
def long? (l : Level) (name : String) : Option Flag := l.flags.find? fun f => f.long = name

/-- The option with a letter. -/
def short? (l : Level) (c : Char) : Option Flag := l.flags.find? fun f => f.short? = some c

/-- How many words a level needs, and how many it takes at most. -/
def words : Level → Nat × Option Nat
  | .watch => (0, none)
  | .send | .upload => (2, some 2)
  | .call => (1, some 1)
  | _ => (0, some 0)

/-- Whether a level takes one more word after `n`. -/
def takesWord (l : Level) (n : Nat) : Bool :=
  match l.words.2 with
  | some most => n < most
  | none => true

/-- Help on the command that some words name below a level. -/
def helpOn (l : Level) : List String → Refusal
  | [] => .displayHelp
  | name :: rest =>
    match l.command? name with
    | some below => below.helpOn rest
    | none =>
      if name = "help" ∧ l.commands ≠ [] ∧ rest = [] then .displayHelp else .invalidSubcommand

/-- Why a word cannot stand where no more words are taken; `bare` tells that it follows two hyphens
alone. -/
def refuseWord (l : Level) (bare : Bool) (word : String) : Refusal :=
  if l.commands = [] then .unknownArgument
  else if bare ∧ ((l.command? word).isSome ∨ word = "help") then .unknownArgument
  else .invalidSubcommand

end Level

/-! ### One level -/

/-- The state of reading one level. -/
structure Scan where
  given : Given
  /-- The words in reverse. -/
  words : List String
  /-- An option that takes a value, with the value once there is one. -/
  pending : Option (Flag × Option String)
  /-- Whether two hyphens alone were passed, after which everything is a word. -/
  bare : Bool

namespace Scan

/-- Takes the value of the pending option, if there is one. The file of an upload, which is its last
word, cannot be empty; it too is only checked when the next option comes. -/
def settle (l : Level) (s : Scan) : Except Refusal Scan :=
  match s.pending with
  | none =>
    if l = .upload ∧ s.words.length = 2 ∧ s.words.head? = some "" then .error .invalidValue
    else .ok s
  | some (_, none) => .error .invalidValue
  | some (f, some value) => (s.given.set f value).map fun given => { s with given, pending := none }

/-- Whether the next word is the value of an option. -/
def awaitsValue (s : Scan) : Bool :=
  match s.pending with
  | some (_, none) => true
  | _ => false

/-- An option with its value, if it was attached. -/
def option (l : Level) (s : Scan) (f : Flag) (attached : Option String) : Except Refusal Scan :=
  if f.takesValue then do
    let s ← s.settle l
    match attached with
    | some value => (s.given.set f value).map fun given => { s with given }
    | none => .ok { s with pending := some (f, none) }
  else
    match attached with
    | some _ => .error .tooManyValues
    | none => do
      let s ← s.settle l
      (s.given.raise f).map fun given => { s with given }

/-- The letters after one hyphen; an option that takes a value takes the rest of them. -/
def letters (l : Level) (s : Scan) : List Char → Except Refusal Scan
  | [] => .ok s
  | c :: rest =>
    match l.short? c with
    | none => .error .unknownArgument
    | some f =>
      if f.takesValue then
        match rest with
        | [] => s.option l f none
        | '=' :: value => s.option l f (some (String.ofList value))
        | value => s.option l f (some (String.ofList value))
      else
        match s.option l f none with
        | .ok s => letters l s rest
        | .error r => .error r

/-- A word that is no option. -/
def word (l : Level) (s : Scan) (w : String) : Except Refusal Scan :=
  if l.takesWord s.words.length then
    (s.settle l).map fun s => { s with words := w :: s.words }
  else .error (l.refuseWord s.bare w)

/-- One argument that is no command. -/
def argument (l : Level) (s : Scan) (arg : String) : Except Refusal Scan :=
  if s.bare then s.word l arg
  else
    match arg.toList with
    | ['-', '-'] => .ok { s with bare := true }
    | '-' :: '-' :: rest =>
      let name := rest.takeWhile (· ≠ '=')
      let attached := match rest.drop name.length with
        | [] => none
        | _ :: value => some (String.ofList value)
      match l.long? (String.ofList name) with
      | none => .error .unknownArgument
      | some f => s.option l f attached
    | '-' :: c :: rest => s.letters l (c :: rest)
    | _ =>
      match s.pending with
      | some (f, none) => .ok { s with pending := some (f, some arg) }
      | _ => s.word l arg

end Scan

/-- Reads the arguments of a level up to a command below it, which is returned with the arguments
behind it. -/
def readLevel (l : Level) (s : Scan) :
    List String → Except Refusal (Scan × Option (Level × List String))
  | [] => .ok (s, none)
  | arg :: rest =>
    let command := if s.bare || s.awaitsValue then none else l.command? arg
    match command with
    | some below => .ok (s, some (below, rest))
    | none =>
      if arg = "help" ∧ l.commands ≠ [] ∧ !s.bare ∧ !s.awaitsValue then .error (l.helpOn rest)
      else
        match s.argument l arg with
        | .ok s => readLevel l s rest
        | .error r => .error r

/-- Whether a level has everything it needs; `below` tells that a command follows. -/
def checkLevel (l : Level) (s : Scan) (below : Bool) : Except Refusal Unit :=
  if l.commands ≠ [] ∧ !below then
    .error (if s.given.isEmpty then .displayHelpOnMissing else .missingSubcommand)
  else if s.words.length < l.words.1 then .error .missingRequiredArgument
  else .ok ()

/-! ### The whole command line -/

/-- The command of a level with its options and words; levels with commands below them are none. -/
def command? (l : Level) (g : Given) (words : List String) : Option Command :=
  match l, words with
  | .printers, _ => some .printers
  | .watch, events => some (.watch events)
  | .send, [printer, gcode] => some (.send printer gcode)
  | .call, [action] => some (.call action g.printer g.data)
  | .upload, [printer, file] => some (.upload printer file g.name (g.group.getD ""))
  | .configPath, _ => some .configPath
  | .configShow, _ => some .configShow
  | _, _ => none

/-- Reads a level and those below it, at most `depth` levels in all. A level is checked when those
below it are. -/
def readLevels (depth : Nat) (l : Level) (env : Config.Environment) (args : List String) :
    Except Refusal (Given × Command) :=
  match depth with
  | 0 => .error .invalidSubcommand
  | depth + 1 => do
    let (s, found) ← readLevel l ⟨{}, [], none, false⟩ args
    let below ← match found with
      | some (next, rest) => (readLevels depth next env rest).map some
      | none => .ok none
    let s ← s.settle l
    let typed := s.given
    let given ← typed.orEnvironment env
    checkLevel l { s with given } below.isSome
    match below with
    | some (deep, command) => .ok (deep.orElse typed, command)
    | none =>
      match command? l given s.words.reverse with
      | some command => .ok (typed, command)
      | none => .error .missingRequiredArgument

/-- The command that a command line asks for. -/
def parse (args : List String) (env : Config.Environment) : Except Refusal Invocation := do
  let (typed, command) ← readLevels 3 .program env args
  let given ← typed.orEnvironment env
  return ⟨given.options, command⟩

end PrintClient.CommandLine
