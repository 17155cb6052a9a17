import PrintClient.Proofs.Text.Utf8
import PrintClient.Url.Percent

/-!
# Percent-encoding, there and back

An encoded text holds only ASCII characters, and none of those that its part of a URL cannot hold.
Where the percent sign itself is encoded, every percent sign of the encoded text is one that the
encoding wrote. So decoding gives back the bytes of the text.

* `forall_of_all`: what holds of each character of a list;
* `hexValue?_hexByte`: a digit that is written is read;
* `not_mem_encodeChars`: what an encoded text does not hold;
* `decode_encodeChars`: decoding undoes encoding.
-/

namespace PrintClient.Url

/-- What holds of all characters of a list can be checked one after the other. -/
theorem forall_of_all {p : Char → Prop} [DecidablePred p] {cs : List Char}
    (h : (cs.all fun c => p c) = true) : ∀ c ∈ cs, p c :=
  fun c hc => of_decide_eq_true (List.all_eq_true.1 h c hc)

namespace Percent

/-! ### Digits -/

/-- The byte of a hexadecimal digit. -/
def hexByte (n : Nat) : UInt8 := UInt8.ofNat (hexDigit n).toNat

theorem encode_hexDigit : ∀ n < 16, String.utf8EncodeChar (hexDigit n) = [hexByte n] := by
  decide

theorem hexValue?_hexByte : ∀ n < 16, hexValue? (hexByte n) = some (UInt8.ofNat n) := by
  decide

/-- The two digits of a byte give it back. -/
theorem ofNat_digits (b : UInt8) :
    UInt8.ofNat (b.toNat / 16) * 16 + UInt8.ofNat (b.toNat % 16) = b := by
  have hsixteen : (16 : UInt8) = UInt8.ofNat 16 := rfl
  rw [hsixteen, ← UInt8.ofNat_mul, ← UInt8.ofNat_add, Nat.div_add_mod', UInt8.ofNat_toNat]

/-! ### One byte -/

section Bytes

variable {set : EncodeSet} {b : UInt8}

/-- Whether a byte is written as a percent sign with two digits. -/
def IsEncoded (set : EncodeSet) (b : UInt8) : Prop :=
  b < 0x20 ∨ 0x7e < b ∨ Char.ofNat b.toNat ∈ set

theorem encodeByte_of_isEncoded (h : IsEncoded set b) :
    encodeByte set b = ['%', hexDigit (b.toNat / 16), hexDigit (b.toNat % 16)] := if_pos h

theorem encodeByte_of_not_isEncoded (h : ¬ IsEncoded set b) :
    encodeByte set b = [Char.ofNat b.toNat] := if_neg h

theorem lt_of_not_isEncoded (h : ¬ IsEncoded set b) : b.toNat < 127 := by
  have hb : ¬ 0x7e < b := fun hb => h (.inr (.inl hb))
  rw [UInt8.lt_iff_toNat_lt] at hb
  simp at hb
  omega

theorem decodeBytes_cons (h : b ≠ 0x25) (rest : List UInt8) :
    decodeBytes (b :: rest) = b :: decodeBytes rest := by
  rw [decodeBytes]
  rintro _ _ _ rfl -
  exact h rfl

theorem decodeBytes_hexBytes (b : UInt8) (rest : List UInt8) :
    decodeBytes (0x25 :: hexByte (b.toNat / 16) :: hexByte (b.toNat % 16) :: rest) =
      b :: decodeBytes rest := by
  have hb := b.toNat_lt
  rw [decodeBytes, hexValue?_hexByte _ (by omega), hexValue?_hexByte _ (by omega)]
  simp only [ofNat_digits]

/-- **A byte is read back**, whatever follows it, if the percent sign is encoded. -/
theorem decodeBytes_encodeByte (hset : '%' ∈ set) (b : UInt8) (rest : List UInt8) :
    decodeBytes ((encodeByte set b).flatMap String.utf8EncodeChar ++ rest) =
      b :: decodeBytes rest := by
  by_cases h : IsEncoded set b
  · have hb := b.toNat_lt
    have hpercent : String.utf8EncodeChar '%' = [0x25] := rfl
    rw [encodeByte_of_isEncoded h]
    simp only [List.flatMap_cons, List.flatMap_nil, List.append_nil, hpercent,
      encode_hexDigit _ (show b.toNat / 16 < 16 by omega),
      encode_hexDigit _ (show b.toNat % 16 < 16 by omega), List.cons_append, List.nil_append]
    exact decodeBytes_hexBytes b rest
  · have hne : b ≠ 0x25 := by
      rintro rfl
      exact h (.inr (.inr hset))
    rw [encodeByte_of_not_isEncoded h, List.flatMap_cons, List.flatMap_nil, List.append_nil,
      Text.encode_ofNat _ (by have := lt_of_not_isEncoded h; omega), UInt8.ofNat_toNat]
    exact decodeBytes_cons hne rest

/-- What is written of a byte is a percent sign, a digit, or a character outside of the set. -/
theorem mem_encodeByte {c : Char} (h : c ∈ encodeByte set b) :
    c = '%' ∨ (∃ n < 16, c = hexDigit n) ∨ c ∉ set := by
  have hb := b.toNat_lt
  by_cases he : IsEncoded set b
  · rw [encodeByte_of_isEncoded he] at h
    simp only [List.mem_cons, List.not_mem_nil, or_false] at h
    rcases h with rfl | rfl | rfl
    · exact .inl rfl
    · exact .inr (.inl ⟨_, by omega, rfl⟩)
    · exact .inr (.inl ⟨_, by omega, rfl⟩)
  · rw [encodeByte_of_not_isEncoded he, List.mem_singleton] at h
    subst h
    exact .inr (.inr fun hmem => he (.inr (.inr hmem)))

end Bytes

/-! ### Texts -/

/-- An encoded text holds no character of the set other than the ones that encoding writes. -/
theorem not_mem_encodeChars {set : EncodeSet} {c : Char} (hset : c ∈ set) (hpercent : c ≠ '%')
    (hdigit : ∀ n < 16, c ≠ hexDigit n) (cs : List Char) : c ∉ encodeChars set cs := by
  intro h
  obtain ⟨b, -, hb⟩ := List.mem_flatMap.1 h
  rcases mem_encodeByte hb with h | ⟨n, hn, h⟩ | h
  · exact hpercent h
  · exact hdigit n hn h
  · exact h hset

theorem decodeBytes_flatMap {set : EncodeSet} (hset : '%' ∈ set) (bytes : List UInt8) :
    decodeBytes ((bytes.flatMap (encodeByte set)).flatMap String.utf8EncodeChar) = bytes := by
  induction bytes with
  | nil => rfl
  | cons b bytes ih =>
    rw [List.flatMap_cons, List.flatMap_append, decodeBytes_encodeByte hset, ih]

/-- **Decoding undoes encoding**, if the percent sign is encoded. -/
theorem decode_encodeChars {set : EncodeSet} (hset : '%' ∈ set) (cs : List Char) :
    decode (encodeChars set cs) = cs.flatMap String.utf8EncodeChar :=
  decodeBytes_flatMap hset _

end Percent

end PrintClient.Url
