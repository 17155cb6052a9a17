import PrintClient.Url.Composition
import PrintClient.Url.Direction

/-!
# Joiners in domain names

Two characters without a shape of their own ask for letters to be joined or not to be joined. A name
may have them only where they change how the letters around them are written.

* `joinersFit`: whether each joiner of a label stands where it may.
-/

namespace PrintClient.Url.Domain

/-- The character that keeps its neighbours from joining. -/
def nonJoiner : Char := '\u200c'

/-- The character that makes its neighbours join. -/
def joiner : Char := '\u200d'

/-- The class of the signs that take the vowel off a letter. -/
def vowelKillerClass : Nat := 9

/-- The letters that join on both sides. -/
def bothJoining : List Rule := readRows bothJoinRows

/-- The letters that join the next one only. -/
def nextJoining : List Rule := readRows nextJoinRows

/-- The letters that join the one before only. -/
def priorJoining : List Rule := readRows priorJoinRows

/-- Whether letters join across a character: the attached signs but one, and a few that are not. -/
def isTransparent (c : Char) : Bool :=
  (isListed attachments c && c.toNat != 0x1171e) ||
    [0xcbf, 0xcc6, 0x11a07, 0x11a08, 0x11c3f, 0x1e94b].contains c.toNat

/-- Whether the next letter could join the text, which is given in reverse. -/
def joinsNext (before : List Char) : Bool :=
  match before.dropWhile isTransparent with
  | c :: _ => isListed bothJoining c || isListed nextJoining c
  | [] => false

/-- Whether the text could join a letter before it. -/
def joinsPrior (after : List Char) : Bool :=
  match after.dropWhile isTransparent with
  | c :: _ => isListed bothJoining c || isListed priorJoining c
  | [] => false

/-- Whether each joiner stands behind a sign that takes a vowel off, or, if it keeps letters from
joining, between letters that would join. The text before is given in reverse. -/
def joinersFitAfter (before : List Char) : List Char → Bool
  | [] => true
  | c :: after =>
    (if c = nonJoiner ∨ c = joiner then
      (match before with
        | d :: _ => combiningClass d == vowelKillerClass
        | [] => false) ||
        (c == nonJoiner && joinsNext before && joinsPrior after)
    else true) && joinersFitAfter (c :: before) after

/-- Whether each joiner of a label stands where it may. -/
def joinersFit (cs : List Char) : Bool := joinersFitAfter [] cs

end PrintClient.Url.Domain
