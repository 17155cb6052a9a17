import PrintClient.Config.Setting

/-!
# Tables of a TOML document

A document builds its tables piece by piece, and which pieces may be added depends on how a table
came about: by its own header, on the way to another header, or through a dotted key. A `Node`
remembers this while the document is read; afterwards only the settings remain.

* `assign?`: a value under a dotted key;
* `within?`: a change of the table that a header names;
* `openTable?`, `openItem?`: the two kinds of headers.
-/

namespace PrintClient.Toml

open Config (Setting)

/-- How a table came about. -/
inductive Origin where
  /-- By a header of its own. -/
  | header
  /-- On the way to the table of another header. -/
  | passed
  /-- As a part of a dotted key. -/
  | dotted
  deriving DecidableEq, Repr

/-- A part of a document while it is being read. -/
inductive Node where
  /-- A value, which nothing can be added to. -/
  | value (v : Setting)
  | table (origin : Origin) (entries : List (String × Node))
  /-- A list of tables that each have a header, the latest in front. -/
  | items (tables : List (List (String × Node)))

instance : Inhabited Node := ⟨.table .header []⟩

/-- Puts a value under a dotted key. Tables on the way are made where there are none; a table with a
header of its own and a value cannot be extended so, and no key can be set twice. -/
def assign? (path : List String) (key : String) (v : Setting) (entries : Dict Node) :
    Option (Dict Node) :=
  match path with
  | [] =>
    match Dict.find? key entries with
    | some _ => none
    | none => some (Dict.insert key (.value v) entries)
  | k :: path =>
    match Dict.find? k entries with
    | none => (assign? path key v []).map fun es => Dict.insert k (.table .dotted es) entries
    | some (.value _) => none
    | some (.table origin es) =>
      if origin = .header ∨ (path = [] ∧ origin ≠ .dotted) then none
      else (assign? path key v es).map fun es => Dict.insert k (.table origin es) entries
    | some (.items []) => none
    | some (.items (es :: before)) =>
      if path = [] then none
      else (assign? path key v es).map fun es => Dict.insert k (.items (es :: before)) entries

/-- Changes the table at the end of a path of headers, entering the latest of a list of tables.
Tables on the way are made where there are none. -/
def within? (path : List String) (change : Dict Node → Option (Dict Node)) (entries : Dict Node) :
    Option (Dict Node) :=
  match path with
  | [] => change entries
  | k :: path =>
    match Dict.find? k entries with
    | none => (within? path change []).map fun es => Dict.insert k (.table .passed es) entries
    | some (.value _) => none
    | some (.table origin es) =>
      (within? path change es).map fun es => Dict.insert k (.table origin es) entries
    | some (.items []) => none
    | some (.items (es :: before)) =>
      (within? path change es).map fun es => Dict.insert k (.items (es :: before)) entries

/-- The header of a table: a new one, or one that was only passed on the way so far. -/
def openTable? (key : String) (entries : Dict Node) : Option (Dict Node) :=
  match Dict.find? key entries with
  | none => some (Dict.insert key (.table .header []) entries)
  | some (.table .passed es) => some (Dict.insert key (.table .header es) entries)
  | some _ => none

/-- The header of one more table of a list. -/
def openItem? (key : String) (entries : Dict Node) : Option (Dict Node) :=
  match Dict.find? key entries with
  | none => some (Dict.insert key (.items [[]]) entries)
  | some (.items tables) => some (Dict.insert key (.items ([] :: tables)) entries)
  | some _ => none

mutual
/-- The setting that a part of a document stands for. -/
def Node.setting : Node → Setting
  | .value v => v
  | .table _ entries => .table (settings entries)
  | .items tables => .list (tableSettings tables).reverse

/-- The settings under the keys of a table. -/
def settings : List (String × Node) → Dict Setting
  | [] => []
  | (key, node) :: rest => (key, node.setting) :: settings rest

/-- The tables of a list. -/
def tableSettings : List (List (String × Node)) → List Setting
  | [] => []
  | entries :: rest => .table (settings entries) :: tableSettings rest
end

end PrintClient.Toml
