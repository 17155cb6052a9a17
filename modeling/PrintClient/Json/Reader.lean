import PrintClient.Json.Fault
import PrintClient.Json.Token

/-!
# Reading JSON values from tokens

Readers take tokens and return a value with the tokens that follow it. They go from left to right,
so the first fault on the way is the one reported. `readValue` bounds how deep lists and objects
nest; `skipValue` passes over a value nobody wants, at any depth, without looking at its numbers and
strings.

* `readValue`, `skipValue`, `readBool`, `readSignedWord`: values from tokens;
* `Json.parse`: a whole text, nested at most `nestingLimit` levels.
-/

namespace PrintClient.Json

/-- How deep lists and objects may nest in a document. -/
def nestingLimit : Nat := 127

/-- A value and the tokens after it, or a fault. -/
abbrev Step (α : Type) := Except Fault (α × List Token)

/-- What reports show of the value that a token begins; a token that begins no value is a fault of
the text. -/
def Token.found : Token → Except Fault Found
  | .null => .ok .null
  | .bool b => .ok (.bool b)
  | .number (some n) => .ok (.number n)
  | .string (some s) => .ok (.string s)
  | .openBracket => .ok .sequence
  | .openBrace => .ok .mapping
  | _ => .error .malformed

/-- The fault of meeting these tokens where a value of some kind is wanted. -/
def unexpected (ts : List Token) (wanted : Shape) : Fault :=
  match ts with
  | [] => .malformed
  | t :: _ =>
    match t.found with
    | .ok f => .wrongKind f wanted
    | .error e => e

mutual
/-- A value nested at most `depth` levels; `fuel` bounds the number of tokens read. -/
def readValue (fuel depth : Nat) (ts : List Token) : Step Json :=
  match fuel with
  | 0 => .error .malformed
  | fuel + 1 =>
    match ts with
    | .null :: rest => .ok (.null, rest)
    | .bool b :: rest => .ok (.bool b, rest)
    | .number (some n) :: rest => .ok (.number n, rest)
    | .string (some s) :: rest => .ok (.string s, rest)
    | .openBracket :: rest =>
      match depth with
      | 0 => .error .malformed
      | depth + 1 =>
        match rest with
        | .closeBracket :: rest => .ok (.array [], rest)
        | _ =>
          match readItems fuel depth [] rest with
          | .ok (items, rest) => .ok (.array items, rest)
          | .error e => .error e
    | .openBrace :: rest =>
      match depth with
      | 0 => .error .malformed
      | depth + 1 =>
        match rest with
        | .closeBrace :: rest => .ok (.object [], rest)
        | _ =>
          match readMembers fuel depth [] rest with
          | .ok (members, rest) => .ok (.object members, rest)
          | .error e => .error e
    | _ => .error .malformed

/-- The items of a list from one item on, added to those already read, which are in reverse. -/
def readItems (fuel depth : Nat) (acc : List Json) (ts : List Token) : Step (List Json) :=
  match fuel with
  | 0 => .error .malformed
  | fuel + 1 =>
    match readValue fuel depth ts with
    | .ok (v, .comma :: rest) => readItems fuel depth (v :: acc) rest
    | .ok (v, .closeBracket :: rest) => .ok ((v :: acc).reverse, rest)
    | .ok _ => .error .malformed
    | .error e => .error e

/-- The members of an object from one member on, entered into those already read. -/
def readMembers (fuel depth : Nat) (acc : Dict Json) (ts : List Token) : Step (Dict Json) :=
  match fuel with
  | 0 => .error .malformed
  | fuel + 1 =>
    match ts with
    | .string (some key) :: .colon :: rest =>
      match readValue fuel depth rest with
      | .ok (v, .comma :: rest) => readMembers fuel depth (Dict.insert key v acc) rest
      | .ok (v, .closeBrace :: rest) => .ok (Dict.insert key v acc, rest)
      | .ok _ => .error .malformed
      | .error e => .error e
    | _ => .error .malformed
end

mutual
/-- The tokens after a value; `fuel` bounds the number of tokens passed over. -/
def skipValue (fuel : Nat) (ts : List Token) : Except Fault (List Token) :=
  match fuel with
  | 0 => .error .malformed
  | fuel + 1 =>
    match ts with
    | .null :: rest => .ok rest
    | .bool _ :: rest => .ok rest
    | .number _ :: rest => .ok rest
    | .string _ :: rest => .ok rest
    | .openBracket :: .closeBracket :: rest => .ok rest
    | .openBracket :: rest => skipItems fuel rest
    | .openBrace :: .closeBrace :: rest => .ok rest
    | .openBrace :: rest => skipMembers fuel rest
    | _ => .error .malformed

/-- The tokens after a list, from one of its items on. -/
def skipItems (fuel : Nat) (ts : List Token) : Except Fault (List Token) :=
  match fuel with
  | 0 => .error .malformed
  | fuel + 1 =>
    match skipValue fuel ts with
    | .ok (.comma :: rest) => skipItems fuel rest
    | .ok (.closeBracket :: rest) => .ok rest
    | .ok _ => .error .malformed
    | .error e => .error e

/-- The tokens after an object, from one of its members on. -/
def skipMembers (fuel : Nat) (ts : List Token) : Except Fault (List Token) :=
  match fuel with
  | 0 => .error .malformed
  | fuel + 1 =>
    match ts with
    | .string _ :: .colon :: rest =>
      match skipValue fuel rest with
      | .ok (.comma :: rest) => skipMembers fuel rest
      | .ok (.closeBrace :: rest) => .ok rest
      | .ok _ => .error .malformed
      | .error e => .error e
    | _ => .error .malformed
end

/-- A truth value. -/
def readBool : List Token → Step Bool
  | .bool b :: rest => .ok (b, rest)
  | ts => .error (unexpected ts .boolean)

/-- A whole number of a signed 64-bit word. -/
def readSignedWord : List Token → Step Int
  | .number (some (.integer i)) :: rest =>
    if i.toInt < Word.signedBound then .ok (i.toInt, rest)
    else .error (.outOfRange i.toInt .signedWord)
  | ts => .error (unexpected ts .signedWord)

/-- A whole text that nests at most `limit` levels. -/
def parseWithin (limit : Nat) (text : String) : Except Fault Json :=
  let ts := tokens text
  match readValue (2 * ts.length + 1) limit ts with
  | .ok (v, []) => .ok v
  | .ok _ => .error .malformed
  | .error e => .error e

/-- A whole text. -/
def parse (text : String) : Except Fault Json := parseWithin nestingLimit text

end PrintClient.Json
