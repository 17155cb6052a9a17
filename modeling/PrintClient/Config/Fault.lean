import PrintClient.Config.Setting
import PrintClient.Text.Quoted

/-!
# What can be wrong with a configuration

A `Fault` names the setting by its path of keys and tells what is wrong with it. A `ConfigError` is
a fault of the sources, or a profile that cannot be used.

* `Source`: where a setting comes from;
* `Fault`, `Defect`: what is wrong, and with which setting;
* `Wording`: the words of those who read the sources; `Wording.usual`: the words for a file that is
  shown under some path;
* `ConfigError`, `ConfigError.message`: why there is no configuration, and how it is told.
-/

namespace PrintClient.Config

/-- The layers of a configuration, from the lowest to the uppermost. -/
inductive Source where
  | builtin
  | file
  | environment
  deriving DecidableEq, Repr

/-- The kind of setting that was wanted. -/
inductive Wanted where
  | text
  | word16
  | word64
  | sequence
  | mapping
  | record (name : String)
  deriving DecidableEq, Repr

/-- The wanted kind in words. -/
def Wanted.describe : Wanted → String
  | .text => "a string"
  | .word16 => "u16"
  | .word64 => "u64"
  | .sequence => "a sequence"
  | .mapping => "a map"
  | .record name => "struct " ++ name

/-- The setting that was found instead, as far as reports show it. -/
inductive Found where
  | text (s : String)
  | truth (b : Bool)
  | signed (i : Int)
  | unsigned (n : Nat)
  | real (x : RealNumber)
  | sequence
  | mapping
  deriving DecidableEq

/-- The found setting in words. -/
def Found.describe : Found → String
  | .text s => "string " ++ Text.quoted s
  | .truth b => "bool " ++ (if b then "true" else "false")
  | .signed i => "signed int `" ++ toString i ++ "`"
  | .unsigned n => "unsigned int `" ++ toString n ++ "`"
  | .real x => "float `" ++ x.text ++ "`"
  | .sequence => "sequence"
  | .mapping => "map"

/-- What reports show of a setting. -/
def Setting.found : Setting → Found
  | .text s => .text s
  | .truth b => .truth b
  | .signed i => .signed i
  | .unsigned n => .unsigned n
  | .real x => .real x
  | .list _ => .sequence
  | .table _ => .mapping

/-- What is wrong with a setting. -/
inductive Defect where
  /-- The text of the file is no document at all. -/
  | syntaxError (text : String)
  | wrongType (found : Found) (wanted : Wanted)
  | outOfRange (found : Found) (wanted : Wanted)
  /-- A record written as a list that ends before a field without a default. -/
  | tooShort (length : Nat) (record : String) (fields : Nat)
  | missingField (name : String)
  deriving DecidableEq

/-- How those who read the sources put it: where a setting stands, by its source and its path, and
what is wrong with a text that is no document. -/
structure Wording where
  place : Source → List String → String
  complaint : String → String

namespace Wording

/-- A key in words. -/
def forKey (keys : List String) : String :=
  if keys = [] then "" else " for key " ++ Text.quoted (".".intercalate keys)

/-- The words for a file that is shown under some path. Variables are named in upper case, and the
keys of a file are those of the only profile that the program reads. -/
def usual (shown : String) : Wording where
  place
    | .builtin, path => forKey (if path = [] then [] else "default" :: path)
    | .file, path => forKey (if path = [] then [] else "default" :: path) ++ " in " ++ shown ++
      " TOML file"
    | .environment, path => forKey (path.map fun key => key.map Char.toUpper) ++
      " in `REPLINK_` environment variable(s)"
  complaint _ := "TOML parse error"

end Wording

/-- The defect in words. -/
def Defect.message (words : Wording) : Defect → String
  | .syntaxError text => words.complaint text
  | .wrongType found wanted =>
    "invalid type: found " ++ found.describe ++ ", expected " ++ wanted.describe
  | .outOfRange found wanted =>
    "invalid value " ++ found.describe ++ ", expected " ++ wanted.describe
  | .tooShort length record fields =>
    "invalid length " ++ toString length ++ ", expected struct " ++ record ++ " with " ++
      toString fields ++ " elements"
  | .missingField name => "missing field `" ++ name ++ "`"

/-- A defect of the setting at the end of a path of keys. -/
structure Fault where
  path : List String
  defect : Defect
  deriving DecidableEq

/-- The same fault, seen from the table that holds the setting under a key. -/
def Fault.under (key : String) (f : Fault) : Fault := { f with path := key :: f.path }

/-- The fault of a source in words. -/
def Fault.message (words : Wording) (source : Source) (f : Fault) : String :=
  f.defect.message words ++ words.place source f.path

end PrintClient.Config

namespace PrintClient

/-- Why there is no configuration, or no endpoint from it. -/
inductive ConfigError where
  /-- A value of a profile that no server can have. -/
  | validation (field reason : String)
  | noCredentials (profile : String)
  | unknownProfile (profile path : String)
  /-- The sources make no configuration, because of a fault of one of them. -/
  | unreadable (source : Config.Source) (fault : Config.Fault)
  deriving DecidableEq

/-- The error in words. -/
def ConfigError.message (words : Config.Wording) : ConfigError → String
  | .validation field reason => "invalid " ++ field ++ ": " ++ reason
  | .noCredentials profile => "no credentials configured for profile '" ++ profile ++ "'"
  | .unknownProfile profile path => "profile '" ++ profile ++ "' not found in " ++ path
  | .unreadable source fault => "config loading failed: " ++ fault.message words source

end PrintClient
