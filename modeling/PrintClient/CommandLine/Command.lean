/-!
# Commands and options

What a command line asks for: a `Command`, and `Options` that hold for every command.
-/

namespace PrintClient.CommandLine

/-- How values are printed. -/
inductive OutputFormat where
  /-- Over several lines. -/
  | json
  /-- On one line. -/
  | jsonCompact
  deriving DecidableEq, Repr

/-- The format with a name. -/
def OutputFormat.ofName? (name : String) : Option OutputFormat :=
  if name = "json" then some .json
  else if name = "json-compact" then some .jsonCompact
  else none

/-- The options that hold for every command. -/
structure Options where
  profile : Option String
  host : Option String
  port : Option UInt16
  apiKey : Option String
  output : OutputFormat
  /-- How many times more talk was asked for. -/
  verbose : Nat
  /-- How many seconds to wait for the first login. -/
  timeout : UInt64
  deriving DecidableEq

/-- How many seconds to wait for the first login unless told otherwise. -/
def defaultTimeout : UInt64 := 10

/-- What the program is asked to do. -/
inductive Command where
  | printers
  /-- Prints events as they come; without names, the common ones. -/
  | watch (events : List String)
  | send (printer gcode : String)
  | call (action : String) (printer data : Option String)
  | upload (printer file : String) (name : Option String) (group : String)
  | configPath
  | configShow
  deriving DecidableEq

/-- What a command line asks for. -/
structure Invocation where
  options : Options
  command : Command
  deriving DecidableEq

end PrintClient.CommandLine
