/-!
# Bounds of words

The whole numbers that fit words of 64 bits, and powers of two and ten.

* `Word.signedLeast`, `Word.signedBound`, `Word.IsSigned`: the signed words;
* `Word.unsignedBound`: the bound of the unsigned words;
* `twoTo`, `tenTo`: powers.
-/

namespace PrintClient

/-- A power of two. -/
def twoTo (n : Nat) : Nat := Nat.pow 2 n

/-- A power of ten. -/
def tenTo (n : Nat) : Nat := Nat.pow 10 n

namespace Word

/-- The least number of a signed word. -/
def signedLeast : Int := -9223372036854775808

/-- The least number above those of a signed word. -/
def signedBound : Int := 9223372036854775808

/-- The least number above those of an unsigned word. -/
def unsignedBound : Int := 18446744073709551616

/-- Whether a number fits a signed word. -/
def IsSigned (i : Int) : Prop := signedLeast ≤ i ∧ i < signedBound

instance (i : Int) : Decidable (IsSigned i) := inferInstanceAs (Decidable (_ ∧ _))

end Word

end PrintClient
