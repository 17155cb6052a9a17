import PrintClient.Decimal.Binary64
import PrintClient.Dict

/-!
# JSON values

Numbers are whole numbers of 64 bits, signed or not, or finite binary floating-point numbers; an
object is a dictionary in key order.
-/

namespace PrintClient

/-- The whole numbers that JSON text keeps exactly: those of a signed or an unsigned 64-bit word. -/
def WideInt : Type := { i : Int // Word.signedLeast ≤ i ∧ i < Word.unsignedBound }
  deriving DecidableEq

namespace WideInt

/-- The whole number, if it is in range. -/
def ofInt? (i : Int) : Option WideInt :=
  if h : Word.signedLeast ≤ i ∧ i < Word.unsignedBound then some ⟨i, h⟩ else none

/-- The whole number as an integer. -/
def toInt (w : WideInt) : Int := w.val

/-- A 64-bit word. -/
def ofWord (n : UInt64) : WideInt :=
  ⟨n.toNat, by have := n.toNat_lt; unfold Word.signedLeast Word.unsignedBound; omega⟩

end WideInt

/-- A JSON number: whole, or with a binary fraction. -/
inductive Number where
  | integer (i : WideInt)
  | real (x : Binary64)
  deriving DecidableEq

/-- A JSON value. -/
inductive Json where
  | null
  | bool (b : Bool)
  | number (n : Number)
  | string (s : String)
  | array (items : List Json)
  | object (members : List (String × Json))

namespace Json

instance : Inhabited Json := ⟨.null⟩

/-- A 64-bit word as a number. -/
def ofWord (n : UInt64) : Json := .number (.integer (.ofWord n))

/-- The member of an object; nothing for a missing member and for a value that is no object. -/
def member? (key : String) : Json → Option Json
  | .object members => Dict.find? key members
  | _ => none

/-- The truth value of a boolean. -/
def toBool? : Json → Option Bool
  | .bool b => some b
  | _ => none

mutual
/-- Whether two values are equal. -/
def beq : Json → Json → Bool
  | .null, .null => true
  | .bool a, .bool b => a == b
  | .number a, .number b => a == b
  | .string a, .string b => a == b
  | .array a, .array b => beqItems a b
  | .object a, .object b => beqMembers a b
  | _, _ => false

/-- Whether two lists of values are equal. -/
def beqItems : List Json → List Json → Bool
  | [], [] => true
  | a :: as, b :: bs => beq a b && beqItems as bs
  | _, _ => false

/-- Whether two lists of members are equal. -/
def beqMembers : List (String × Json) → List (String × Json) → Bool
  | [], [] => true
  | (k, a) :: as, (l, b) :: bs => k == l && beq a b && beqMembers as bs
  | _, _ => false
end

mutual
theorem beq_iff : ∀ a b : Json, beq a b = true ↔ a = b
  | .null, b => by cases b <;> simp [beq]
  | .bool a, b => by cases b <;> simp [beq]
  | .number a, b => by cases b <;> simp [beq]
  | .string a, b => by cases b <;> simp [beq]
  | .array a, b => by
    cases b with
    | array b => simp [beq, beqItems_iff a b]
    | _ => simp [beq]
  | .object a, b => by
    cases b with
    | object b => simp [beq, beqMembers_iff a b]
    | _ => simp [beq]

theorem beqItems_iff : ∀ a b : List Json, beqItems a b = true ↔ a = b
  | [], b => by cases b <;> simp [beqItems]
  | a :: as, b => by
    cases b with
    | nil => simp [beqItems]
    | cons b bs => simp [beqItems, beq_iff a b, beqItems_iff as bs]

theorem beqMembers_iff : ∀ a b : List (String × Json), beqMembers a b = true ↔ a = b
  | [], b => by cases b <;> simp [beqMembers]
  | (k, a) :: as, b => by
    cases b with
    | nil => simp [beqMembers]
    | cons b bs =>
      obtain ⟨l, b⟩ := b
      simp [beqMembers, beq_iff a b, beqMembers_iff as bs, Prod.ext_iff]
end

instance : DecidableEq Json := fun a b =>
  decidable_of_iff (beq a b = true) (beq_iff a b)

end Json

end PrintClient
