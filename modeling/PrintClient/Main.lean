import PrintClient.Rehearsal.OfCommand
import PrintClient.Rehearsal.OfUpload

/-!
# The command line

The outer layer of the program: it reads the environment, the configuration file and the file to be
sent, hands them to `CommandLine.run`, and prints what comes of it. It has no transport of its own,
so every way to a server is unreachable for it.
-/

namespace PrintClient.Main

/-- Where the system shows the environment of the process. -/
def environmentFile : String := "/proc/self/environ"

/-- The environment of the process. -/
def environment : IO Config.Environment := do
  let bytes ← IO.FS.readBinFile environmentFile
  return Config.Environment.ofBlock bytes.toList

/-- The text of the configuration file, if there is one. -/
def configFile (env : Config.Environment) : IO (Option String) := do
  try
    let bytes ← IO.FS.readBinFile (Config.location env)
    return some (Text.ofUtf8 bytes.toList)
  catch _ => return none

/-- What the system says of a file that cannot be opened. -/
def fileFault : IO.Error → FileFault
  | .noFileOrDirectory .. => .notFound
  | .inappropriateType _ 20 _ => .notDirectory
  | .inappropriateType _ 21 _ => .isDirectory
  | e => .other (toString e)

/-- Opens the file at a path. -/
def openFile (path : String) : IO (Except FileFault OpenFile) := do
  try
    let bytes ← IO.FS.readBinFile path
    return .ok (.ofBytes bytes.toList)
  catch e =>
    match fileFault e with
    | .isDirectory => return .ok .directory
    | fault => return .error fault

/-- The file that a command line asks to send. -/
def fileToSend? (args : List String) (env : Config.Environment) : Option String :=
  match CommandLine.parse args env with
  | .ok ⟨_, .upload _ file _ _⟩ => some file
  | _ => none

/-- A way to open the file that is to be sent, and no other. -/
def files (args : List String) (env : Config.Environment) : IO FileOpener := do
  match fileToSend? args env with
  | none => return fun _ => .error .notFound
  | some file =>
    let opened ← openFile file
    return fun path => if path = .ofText file then opened else .error .notFound

/-- No way leads to any server. -/
def network : Rehearsal.Network := .unreachable "Network is unreachable (os error 101)"

/-- The script of a server that is never reached. -/
def script : Rehearsal.CommandScript := ⟨network, none, .hangup, [], []⟩

/-- What lies around the program. -/
def surroundings (args : List String) : IO CommandLine.Surroundings := do
  let env ← environment
  return {
    env
    configFile := ← configFile env
    wording := .usual (Config.location env)
    files := ← files args env
    boundary := Multipart.boundaryOf (← IO.getRandomBytes 16).toList
    post := Rehearsal.httpClient network none
    converse := fun resolved patience wish => (Rehearsal.converse script resolved patience wish).1 }

end PrintClient.Main

/-- Runs the program on its arguments. -/
def main (args : List String) : IO UInt32 := do
  let surroundings ← PrintClient.Main.surroundings args
  let outcome := PrintClient.CommandLine.run surroundings args
  IO.print outcome.stdout
  IO.eprint (outcome.stderr surroundings.wording)
  return UInt32.ofNat outcome.exitCode
