import PrintClient.Decimal.Layout
import PrintClient.Dict

/-!
# Settings

A `Setting` is a value of a configuration source: a text, a number, a truth value, a list, or a
table of settings under keys. Sources are laid over each other by `Setting.overlay`: tables are
merged key by key, and any other setting replaces the one below it as a whole.
-/

namespace PrintClient.Config

/-- A floating-point number of a source. -/
inductive RealNumber where
  | finite (x : Binary64)
  | infinite (negative : Bool)
  | undefined
  deriving DecidableEq

/-- The text of a number in reports. -/
def RealNumber.text : RealNumber → String
  | .finite x => Decimal.render .positional x
  | .infinite negative => if negative then "-inf" else "inf"
  | .undefined => "NaN"

/-- A value of a configuration source. Whole numbers remember whether their source takes them for
signed ones. -/
inductive Setting where
  | text (s : String)
  | truth (b : Bool)
  | signed (i : Int)
  | unsigned (n : Nat)
  | real (x : RealNumber)
  | list (items : List Setting)
  | table (entries : List (String × Setting))

namespace Setting

instance : Inhabited Setting := ⟨.table []⟩

mutual
/-- The setting `upper` over `lower`: tables are merged, anything else is replaced. -/
def overlay (lower : Setting) : Setting → Setting
  | .table upper =>
    match lower with
    | .table entries => .table (overlayTable entries upper)
    | _ => .table upper
  | upper => upper

/-- The entries of a table laid over another table, one after the other. -/
def overlayTable (lower : Dict Setting) : List (String × Setting) → Dict Setting
  | [] => lower
  | (key, upper) :: rest =>
    let merged := match Dict.find? key lower with
      | some below => overlay below upper
      | none => upper
    overlayTable (Dict.insert key merged lower) rest
end

/-- A table that holds a setting at the end of a path of keys. -/
def nested (path : List String) (value : Setting) : Setting :=
  path.foldr (fun key inner => .table [(key, inner)]) value

/-- The setting at the end of a path of keys. -/
def at? : List String → Setting → Option Setting
  | [], s => some s
  | key :: path, .table entries => (Dict.find? key entries).bind (at? path)
  | _ :: _, _ => none

/-- Whether there is a setting at the end of a path of keys, the items of a list included. -/
def reaches : List String → Setting → Bool
  | [], _ => true
  | key :: path, .table entries => (Dict.find? key entries).any (reaches path)
  | _ :: _, .list _ => true
  | _ :: _, _ => false

end Setting

end PrintClient.Config
