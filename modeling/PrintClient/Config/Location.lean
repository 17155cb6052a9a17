import PrintClient.Config.Environment

/-!
# Where the configuration file is

The file lies in a directory of its own below the user's directory for configuration, which the
environment names or else is below the home directory.
-/

namespace PrintClient.Config

/-- A path below a directory. -/
def below (directory name : String) : String :=
  if directory = "" ∨ directory.toList.getLast? = some '/' then directory ++ name
  else directory ++ "/" ++ name

/-- Whether a path starts at the root. -/
def isAbsolute (path : String) : Bool := path.toList.head? = some '/'

/-- The home directory that the system knows for the account, when the environment names none. -/
def accountHome : String := "/root"

/-- The home directory. -/
def home (env : Environment) : String :=
  match Dict.find? "HOME" env with
  | some path => if path = "" then accountHome else path
  | none => accountHome

/-- The directory for configuration; the environment may name it by an absolute path. -/
def directory (env : Environment) : String :=
  match (Dict.find? "XDG_CONFIG_HOME" env).filter isAbsolute with
  | some path => path
  | none => below (home env) ".config"

/-- The path of the configuration file. -/
def location (env : Environment) : String :=
  below (below (directory env) "replink") "config.toml"

end PrintClient.Config
