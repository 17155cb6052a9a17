import PrintClient.Text.Utf8

/-!
# Texts and their bytes

Bytes that encode a text are read as that text: a character is told by its first byte, and its
encoding is neither too long nor that of half a surrogate pair.

* `firstChar_of_one`, `firstChar_of_two`, `firstChar_of_three`, `firstChar_of_four`: the first
  character of some bytes, by the length of its encoding;
* `firstChar_encode`: the first character of bytes that begin with an encoded character;
* `ofUtf8_utf8`, `utf8_injective`: a text is recovered from its bytes;
* `mem_toList_of_mem_utf8`, `infix_of_infix_utf8`: bytes that are characters on their own;
* `toList_ofLatin1`: the text whose code points are given.
-/

namespace PrintClient.Text

/-! ### One character -/

section First

variable {a b c d : UInt8}

/-- The bytes that continue a character. -/
def Continues (b : UInt8) : Prop := 128 ≤ b.toNat ∧ b.toNat < 192

theorem Continues.ge (h : Continues b) : 0x80 ≤ b := UInt8.le_iff_toNat_le.2 h.1

theorem Continues.le (h : Continues b) : b ≤ 0xbf :=
  UInt8.le_iff_toNat_le.2 (Nat.le_of_lt_succ h.2)

theorem Continues.isContinuation (h : Continues b) : isContinuation b = true := by
  simp only [Text.isContinuation, h.ge, h.le, decide_true, Bool.and_true]

theorem not_single (ha : 128 ≤ a.toNat) : ¬ a < 0x80 := by
  rw [UInt8.lt_iff_toNat_lt]
  exact Nat.not_lt.2 ha

theorem not_pair (ha : 224 ≤ a.toNat) : ¬ (0xc2 ≤ a ∧ a ≤ 0xdf) := by
  rw [UInt8.le_iff_toNat_le, UInt8.le_iff_toNat_le]
  exact fun h => Nat.not_lt.2 h.2 ha

theorem firstChar_of_one (ha : a.toNat < 128) (rest : List UInt8) :
    firstChar a rest = (some (Char.ofNat a.toNat), 1) := by
  have hone : a < 0x80 := UInt8.lt_iff_toNat_lt.2 ha
  unfold firstChar
  rw [if_pos hone]

theorem firstChar_of_two (ha : 194 ≤ a.toNat) (ha' : a.toNat < 224) (hb : Continues b)
    (rest : List UInt8) :
    firstChar a (b :: rest) = (some (Char.ofNat (a.toNat % 32 * 64 + payload b)), 2) := by
  have hone : ¬ a < 0x80 := not_single (Nat.le_trans (by decide) ha)
  have htwo : 0xc2 ≤ a ∧ a ≤ 0xdf :=
    ⟨UInt8.le_iff_toNat_le.2 ha, UInt8.le_iff_toNat_le.2 (Nat.le_of_lt_succ ha')⟩
  unfold firstChar
  rw [if_neg hone, if_pos htwo]
  exact if_pos hb.isContinuation

theorem firstChar_of_three (ha : 224 ≤ a.toNat) (ha' : a.toNat < 240) (hb : Continues b)
    (hlow : a.toNat = 224 → 160 ≤ b.toNat) (hhigh : a.toNat = 237 → b.toNat < 160)
    (hc : Continues c) (rest : List UInt8) :
    firstChar a (b :: c :: rest) =
      (some (Char.ofNat ((a.toNat % 16 * 64 + payload b) * 64 + payload c)), 3) := by
  have hone : ¬ a < 0x80 := not_single (Nat.le_trans (by decide) ha)
  have htwo : ¬ (0xc2 ≤ a ∧ a ≤ 0xdf) := not_pair ha
  have hthree : 0xe0 ≤ a ∧ a ≤ 0xef :=
    ⟨UInt8.le_iff_toNat_le.2 ha, UInt8.le_iff_toNat_le.2 (Nat.le_of_lt_succ ha')⟩
  -- what is lower behind 0xe0 has a shorter encoding; what is higher behind 0xed is a surrogate
  have hbounds : (secondOfThree a).1 ≤ b ∧ b ≤ (secondOfThree a).2 := by
    unfold secondOfThree
    split
    · rename_i heq
      exact ⟨UInt8.le_iff_toNat_le.2 (hlow (congrArg UInt8.toNat heq)), hb.le⟩
    · split
      · rename_i heq
        have := hhigh (congrArg UInt8.toNat heq)
        exact ⟨hb.ge, UInt8.le_iff_toNat_le.2 (Nat.le_of_lt_succ this)⟩
      · exact ⟨hb.ge, hb.le⟩
  unfold firstChar
  rw [if_neg hone, if_neg htwo, if_pos hthree]
  simp only [hbounds.1, hbounds.2]
  exact if_pos hc.isContinuation

theorem firstChar_of_four (ha : 240 ≤ a.toNat) (ha' : a.toNat < 245) (hb : Continues b)
    (hlow : a.toNat = 240 → 144 ≤ b.toNat) (hhigh : a.toNat = 244 → b.toNat < 144)
    (hc : Continues c) (hd : Continues d) (rest : List UInt8) :
    firstChar a (b :: c :: d :: rest) = (some (Char.ofNat
      (((a.toNat % 8 * 64 + payload b) * 64 + payload c) * 64 + payload d)), 4) := by
  have hone : ¬ a < 0x80 := not_single (Nat.le_trans (by decide) ha)
  have htwo : ¬ (0xc2 ≤ a ∧ a ≤ 0xdf) := not_pair (Nat.le_trans (by decide) ha)
  have hthree : ¬ (0xe0 ≤ a ∧ a ≤ 0xef) := by
    rw [UInt8.le_iff_toNat_le, UInt8.le_iff_toNat_le]
    exact fun h => Nat.not_lt.2 h.2 ha
  have hfour : 0xf0 ≤ a ∧ a ≤ 0xf4 :=
    ⟨UInt8.le_iff_toNat_le.2 ha, UInt8.le_iff_toNat_le.2 (Nat.le_of_lt_succ ha')⟩
  -- what is lower behind 0xf0 has a shorter encoding; what is higher behind 0xf4 is no character
  have hbounds : (secondOfFour a).1 ≤ b ∧ b ≤ (secondOfFour a).2 := by
    unfold secondOfFour
    split
    · rename_i heq
      exact ⟨UInt8.le_iff_toNat_le.2 (hlow (congrArg UInt8.toNat heq)), hb.le⟩
    · split
      · rename_i heq
        have := hhigh (congrArg UInt8.toNat heq)
        exact ⟨hb.ge, UInt8.le_iff_toNat_le.2 (Nat.le_of_lt_succ this)⟩
      · exact ⟨hb.ge, hb.le⟩
  unfold firstChar
  rw [if_neg hone, if_neg htwo, if_neg hthree, if_pos hfour]
  simp only [hbounds.1, hbounds.2, hc.isContinuation]
  exact if_pos hd.isContinuation

end First

/-! ### Encoded characters -/

theorem toNat_ofNat {n : Nat} (h : n < 256) : (UInt8.ofNat n).toNat = n :=
  UInt8.toNat_ofNat_of_lt h

theorem continues_ofNat {n : Nat} (h : n < 64) : Continues (UInt8.ofNat (n + 128)) := by
  rw [Continues, toNat_ofNat (by omega)]
  omega

theorem payload_ofNat {n : Nat} (h : n < 64) : payload (UInt8.ofNat (n + 128)) = n := by
  rw [payload, toNat_ofNat (by omega)]
  omega

/-- **Bytes that begin with an encoded character begin with that character**, and are left by as
many bytes as its encoding has. -/
theorem firstChar_encode (c : Char) (rest : List UInt8) : ∃ b more,
    String.utf8EncodeChar c = b :: more ∧
      firstChar b (more ++ rest) = (some c, more.length + 1) := by
  obtain ⟨n, hn⟩ : ∃ n, n = c.val.toNat := ⟨_, rfl⟩
  have hchar : Char.ofNat n = c := hn ▸ c.ofNat_toNat
  have hvalid : n < 0xd800 ∨ 0xdfff < n ∧ n < 0x110000 := hn ▸ c.valid
  -- by the length of the encoding; a code point is put together from the payloads of its bytes
  unfold String.utf8EncodeChar
  simp only [← hn]
  split
  · have ha : (UInt8.ofNat n).toNat = n := toNat_ofNat (by omega)
    refine ⟨_, _, rfl, ?_⟩
    rw [firstChar_of_one (by omega), ha, hchar]
    rfl
  · split
    · have ha : (UInt8.ofNat (n / 64 % 32 + 192)).toNat = n / 64 % 32 + 192 :=
        toNat_ofNat (by omega)
      refine ⟨_, _, rfl, (firstChar_of_two (by omega) (by omega) (continues_ofNat (by omega))
        rest).trans ?_⟩
      rw [ha, payload_ofNat (by omega),
        show (n / 64 % 32 + 192) % 32 * 64 + n % 64 = n by omega, hchar]
      rfl
    · split
      · have ha : (UInt8.ofNat (n / 4096 % 16 + 224)).toNat = n / 4096 % 16 + 224 :=
          toNat_ofNat (by omega)
        have hb : (UInt8.ofNat (n / 64 % 64 + 128)).toNat = n / 64 % 64 + 128 :=
          toNat_ofNat (by omega)
        refine ⟨_, _, rfl, (firstChar_of_three (by omega) (by omega) (continues_ofNat (by omega))
          (by omega) (by omega) (continues_ofNat (by omega)) rest).trans ?_⟩
        rw [ha, payload_ofNat (by omega), payload_ofNat (by omega),
          show ((n / 4096 % 16 + 224) % 16 * 64 + n / 64 % 64) * 64 + n % 64 = n by omega, hchar]
        rfl
      · have ha : (UInt8.ofNat (n / 262144 % 8 + 240)).toNat = n / 262144 % 8 + 240 :=
          toNat_ofNat (by omega)
        have hb : (UInt8.ofNat (n / 4096 % 64 + 128)).toNat = n / 4096 % 64 + 128 :=
          toNat_ofNat (by omega)
        refine ⟨_, _, rfl, (firstChar_of_four (by omega) (by omega) (continues_ofNat (by omega))
          (by omega) (by omega) (continues_ofNat (by omega)) (continues_ofNat (by omega))
          rest).trans ?_⟩
        rw [ha, payload_ofNat (by omega), payload_ofNat (by omega), payload_ofNat (by omega),
          show (((n / 262144 % 8 + 240) % 8 * 64 + n / 4096 % 64) * 64 + n / 64 % 64) * 64 +
            n % 64 = n by omega, hchar]
        rfl

/-! ### Whole texts -/

@[simp] theorem utf8_append (s t : String) : utf8 (s ++ t) = utf8 s ++ utf8 t := by
  simp [utf8]

/-- The bytes of characters are read as these characters. -/
theorem decodeWithin_encode (cs : List Char) (fuel : Nat)
    (hfuel : (cs.flatMap String.utf8EncodeChar).length ≤ fuel) :
    decodeWithin fuel (cs.flatMap String.utf8EncodeChar) = cs.map some := by
  induction cs generalizing fuel with
  | nil => cases fuel <;> rfl
  | cons c cs ih =>
    obtain ⟨b, more, hc, hfirst⟩ := firstChar_encode c (cs.flatMap String.utf8EncodeChar)
    rw [List.flatMap_cons, hc] at hfuel ⊢
    simp only [List.cons_append, List.length_cons, List.length_append] at hfuel
    cases fuel with
    | zero => omega
    | succ fuel =>
      simp only [List.cons_append, decodeWithin, hfirst, Nat.add_sub_cancel, List.drop_left,
        List.map_cons]
      rw [ih fuel (by omega)]

theorem decode_utf8 (s : String) : decode (utf8 s) = s.toList.map some := by
  rw [decode, utf8, decodeWithin_encode _ _ (Nat.le_refl _)]

/-- The bytes of a text are the encoding of a text. -/
theorem isUtf8_utf8 (s : String) : isUtf8 (utf8 s) = true := by
  rw [isUtf8, decode_utf8, List.all_map, List.all_eq_true]
  exact fun _ _ => rfl

/-- **A text is recovered from its bytes.** -/
@[simp] theorem ofUtf8_utf8 (s : String) : ofUtf8 (utf8 s) = s := by
  rw [ofUtf8, decode_utf8, List.map_map]
  simp [Function.comp_def]

/-- Different texts have different bytes. -/
theorem utf8_injective : Function.Injective utf8 := by
  intro s t h
  rw [← ofUtf8_utf8 s, h, ofUtf8_utf8]

/-- A byte below 128 encodes a character on its own. -/
theorem ofNat_of_mem_encode {b : UInt8} (hb : b.toNat < 128) {c : Char}
    (h : b ∈ String.utf8EncodeChar c) : Char.ofNat b.toNat = c := by
  have hlarge (n : Nat) (hn : 128 ≤ n ∧ n < 256) : b ≠ UInt8.ofNat n := by
    intro hbn
    rw [hbn, toNat_ofNat hn.2] at hb
    omega
  have hvalid := c.valid
  have hchar : Char.ofNat c.val.toNat = c := c.ofNat_toNat
  unfold String.utf8EncodeChar at h
  simp only at h
  split at h
  · rename_i hone
    rw [List.mem_singleton.1 h, toNat_ofNat (by omega)]
    exact hchar
  · -- of more bytes, the first says how many, and the others continue
    exfalso
    split at h
    · simp only [List.mem_cons, List.not_mem_nil, or_false] at h
      rcases h with h | h <;> exact hlarge _ (by omega) h
    · split at h
      · simp only [List.mem_cons, List.not_mem_nil, or_false] at h
        rcases h with h | h | h <;> exact hlarge _ (by omega) h
      · simp only [List.mem_cons, List.not_mem_nil, or_false] at h
        rcases h with h | h | h | h <;> exact hlarge _ (by omega) h

/-- A byte below 128 in the encoding of a text is a character of that text. -/
theorem mem_toList_of_mem_utf8 {b : UInt8} (hb : b.toNat < 128) {s : String} (h : b ∈ utf8 s) :
    Char.ofNat b.toNat ∈ s.toList := by
  obtain ⟨c, hc, hbc⟩ := List.mem_flatMap.1 h
  rw [ofNat_of_mem_encode hb hbc]
  exact hc

theorem encode_ofNat : ∀ n < 128, String.utf8EncodeChar (Char.ofNat n) = [UInt8.ofNat n] := by
  decide

/-- Such a byte is the whole encoding of its character. -/
theorem encode_of_mem {b : UInt8} (hb : b.toNat < 128) {c : Char}
    (h : b ∈ String.utf8EncodeChar c) : String.utf8EncodeChar c = [b] := by
  rw [← ofNat_of_mem_encode hb h, encode_ofNat _ hb, UInt8.ofNat_toNat]

/-- What begins with a letter does not begin in front of that letter. -/
theorem infix_of_infix_append {α : Type} {c : α} {m xs ys : List α} (hc : c ∉ xs)
    (h : c :: m <:+: xs ++ ys) : c :: m <:+: ys := by
  induction xs with
  | nil => exact h
  | cons x xs ih =>
    rw [List.mem_cons, not_or] at hc
    rcases List.infix_cons_iff.1 h with hprefix | hin
    · exact absurd (List.cons_prefix_cons.1 hprefix).1 hc.1
    · exact ih hc.2 hin

section Ascii

variable {m : List UInt8} {cs : List Char}

theorem prefix_of_prefix_encode (hm : ∀ b ∈ m, b.toNat < 128)
    (h : m <+: cs.flatMap String.utf8EncodeChar) :
    m.map (fun b => Char.ofNat b.toNat) <+: cs := by
  induction m generalizing cs with
  | nil => exact List.nil_prefix
  | cons b m ih =>
    cases cs with
    | nil => exact absurd (List.prefix_nil.1 h) (List.cons_ne_nil b m)
    | cons c cs =>
      obtain ⟨first, more, hfirst, -⟩ := firstChar_encode c []
      have hb : b ∈ String.utf8EncodeChar c := by
        rw [List.flatMap_cons, hfirst, List.cons_append] at h
        rw [hfirst, (List.cons_prefix_cons.1 h).1]
        exact List.mem_cons_self
      have hsmall := hm b List.mem_cons_self
      rw [List.flatMap_cons, encode_of_mem hsmall hb, List.singleton_append] at h
      exact List.cons_prefix_cons.2 ⟨ofNat_of_mem_encode hsmall hb,
        ih (fun d hd => hm d (List.mem_cons_of_mem _ hd)) (List.cons_prefix_cons.1 h).2⟩

theorem infix_of_infix_encode (hm : ∀ b ∈ m, b.toNat < 128)
    (h : m <:+: cs.flatMap String.utf8EncodeChar) :
    m.map (fun b => Char.ofNat b.toNat) <:+: cs := by
  cases m with
  | nil => exact List.nil_infix
  | cons b m =>
    induction cs with
    | nil => exact absurd (List.infix_nil.1 h) (List.cons_ne_nil b m)
    | cons c cs ih =>
      by_cases hb : b ∈ String.utf8EncodeChar c
      · rw [List.flatMap_cons, encode_of_mem (hm b List.mem_cons_self) hb,
          List.singleton_append] at h
        rcases List.infix_cons_iff.1 h with hprefix | hin
        · refine (prefix_of_prefix_encode hm ?_).isInfix
          rwa [List.flatMap_cons, encode_of_mem (hm b List.mem_cons_self) hb]
        · exact List.infix_cons (ih hin)
      · exact List.infix_cons (ih (infix_of_infix_append hb h))

/-- **Bytes below 128 stand in the encoding of a text where their characters do.** -/
theorem infix_of_infix_utf8 {s : String} (hm : ∀ b ∈ m, b.toNat < 128) (h : m <:+: utf8 s) :
    m.map (fun b => Char.ofNat b.toNat) <:+: s.toList :=
  infix_of_infix_encode hm h

end Ascii

/-- The code points of a text that is given by them. -/
theorem toList_ofLatin1 (bytes : List UInt8) :
    (ofLatin1 bytes).toList.map Char.toNat = bytes.map UInt8.toNat := by
  rw [ofLatin1, String.toList_ofList, List.map_map]
  refine List.map_congr_left fun b _ => ?_
  have hb := b.toNat_lt
  have hvalid : b.toNat.isValidChar := .inl (by omega)
  show (Char.ofNat b.toNat).toNat = b.toNat
  rw [Char.ofNat, dif_pos hvalid]
  rfl

end PrintClient.Text
