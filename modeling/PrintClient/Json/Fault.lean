import PrintClient.Decimal.Layout
import PrintClient.Json.Value
import PrintClient.Text.Quoted

/-!
# What can be wrong with a JSON document

A document that is no JSON text at all is `malformed`; the other faults tell a value of the wrong
kind, out of range, or a record with missing or repeated fields.
-/

namespace PrintClient.Json

/-- The kind of value that was wanted. -/
inductive Shape where
  | signedWord
  | boolean
  | text
  | sequence
  | record (name : String)
  deriving DecidableEq, Repr

/-- The wanted kind in words. -/
def Shape.describe : Shape → String
  | .signedWord => "i64"
  | .boolean => "a boolean"
  | .text => "a string"
  | .sequence => "a sequence"
  | .record name => "struct " ++ name

/-- The value that was found instead, as far as reports show it. -/
inductive Found where
  | null
  | bool (b : Bool)
  | number (n : Number)
  | string (s : String)
  | sequence
  | mapping
  deriving DecidableEq

/-- The found value in words. -/
def Found.describe : Found → String
  | .null => "null"
  | .bool b => "boolean `" ++ (if b then "true" else "false") ++ "`"
  | .number (.integer i) => "integer `" ++ toString i.toInt ++ "`"
  | .number (.real x) => "floating point `" ++ Decimal.render .json x ++ "`"
  | .string s => "string " ++ Text.quoted s
  | .sequence => "sequence"
  | .mapping => "map"

/-- What reports show of a value. -/
def found : Json → Found
  | .null => .null
  | .bool b => .bool b
  | .number n => .number n
  | .string s => .string s
  | .array _ => .sequence
  | .object _ => .mapping

/-- A fault of a document. -/
inductive Fault where
  /-- The text is not JSON, or nests too deep, or holds a number or string that no value can be. -/
  | malformed
  | wrongKind (found : Found) (wanted : Shape)
  | outOfRange (found : Int) (wanted : Shape)
  /-- A record written as a list that ends before a field without a default. -/
  | tooShort (length : Nat) (record : String) (fields : Nat)
  /-- A record written as a list with more items than fields. -/
  | tooLong (length : Nat)
  | missingField (name : String)
  | duplicateField (name : String)
  deriving DecidableEq

/-- The fault in words. -/
def Fault.message : Fault → String
  | .malformed => "malformed JSON"
  | .wrongKind f w => "invalid type: " ++ f.describe ++ ", expected " ++ w.describe
  | .outOfRange i w => "invalid value: integer `" ++ toString i ++ "`, expected " ++ w.describe
  | .tooShort n record fields =>
    "invalid length " ++ toString n ++ ", expected struct " ++ record ++ " with " ++
      toString fields ++ " elements"
  | .tooLong n => "invalid length " ++ toString n ++ ", expected fewer elements in array"
  | .missingField name => "missing field `" ++ name ++ "`"
  | .duplicateField name => "duplicate field `" ++ name ++ "`"

end PrintClient.Json
