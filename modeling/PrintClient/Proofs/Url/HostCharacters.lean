import PrintClient.Proofs.Url.Percent
import PrintClient.Url.Host

/-!
# Characters that no host has

A few characters have a meaning in a URL around its host. They end the host, or what stands before
or behind it. No such character is part of a host: decoding, folding and composing a name leave it
where it stands, and then the name is refused; and an address has digits, colons and points only.

* `delimiters`: these characters;
* `mem_decodeBytes`, `mem_ofUtf8`, `mem_compose`: what leaves them where they stand;
* `toAscii?_eq_none`: a name with one of them is none;
* `spells_of_parse?`: the characters of an address;
* `Host.cases_of_parse`, `Host.not_mem_of_parse`: the characters of a host.
-/

namespace PrintClient.Url

/-! ### Bytes -/

/-- A byte that is neither a percent sign nor a digit is not touched by decoding. -/
theorem Percent.mem_decodeBytes {b : UInt8} (hpercent : b ≠ 0x25) (hdigit : hexValue? b = none)
    {bytes : List UInt8} (h : b ∈ bytes) : b ∈ decodeBytes bytes := by
  fun_induction decodeBytes bytes with
  | case1 x y rest xv yv hx hy ih =>
    have hne : b ≠ x ∧ b ≠ y := by
      constructor
      · rintro rfl
        rw [hdigit] at hy
        cases hy
      · rintro rfl
        rw [hdigit] at hx
        cases hx
    simp only [List.mem_cons, hpercent, hne.1, hne.2, false_or] at h
    exact List.mem_cons_of_mem _ (ih h)
  | case2 x y rest _ ih =>
    rw [List.mem_cons] at h
    exact List.mem_cons_of_mem _ (ih (h.resolve_left hpercent))
  | case3 x rest _ ih =>
    rcases List.mem_cons.1 h with rfl | h
    · exact List.mem_cons_self
    · exact List.mem_cons_of_mem _ (ih h)
  | case4 => cases h

end PrintClient.Url

namespace PrintClient.Text

theorem secondOfThree_ge (a : UInt8) : 128 ≤ (secondOfThree a).1.toNat := by
  unfold secondOfThree
  split
  · decide
  · split <;> decide

theorem secondOfFour_ge (a : UInt8) : 128 ≤ (secondOfFour a).1.toNat := by
  unfold secondOfFour
  split
  · decide
  · split <;> decide

/-- What is left out behind the first byte of a character has no byte below 128. -/
theorem not_mem_take_firstChar {b : UInt8} (hb : b.toNat < 128) (a : UInt8) (rest : List UInt8) :
    b ∉ rest.take ((firstChar a rest).2 - 1) := by
  have hbetween {c low high : UInt8} (hlow : 128 ≤ low.toNat) (hc : low ≤ c ∧ c ≤ high) :
      b ≠ c := by
    rintro rfl
    have := UInt8.le_iff_toNat_le.1 hc.1
    omega
  have hcontinues (c : UInt8) (hc : isContinuation c = true) : b ≠ c := by
    simp only [isContinuation, Bool.and_eq_true, decide_eq_true_eq] at hc
    exact hbetween (by decide) hc
  have hthree (c : UInt8) (hc : (secondOfThree a).1 ≤ c ∧ c ≤ (secondOfThree a).2) : b ≠ c :=
    hbetween (secondOfThree_ge a) hc
  have hfour (c : UInt8) (hc : (secondOfFour a).1 ≤ c ∧ c ≤ (secondOfFour a).2) : b ≠ c :=
    hbetween (secondOfFour_ge a) hc
  unfold firstChar
  dsimp only
  repeat' split
  all_goals simp [*]

theorem mem_decodeWithin {b : UInt8} (hb : b.toNat < 128) (fuel : Nat) {bytes : List UInt8}
    (hfuel : bytes.length ≤ fuel) (h : b ∈ bytes) :
    some (Char.ofNat b.toNat) ∈ decodeWithin fuel bytes := by
  induction fuel generalizing bytes with
  | zero =>
    rw [List.length_eq_zero_iff.1 (Nat.le_zero.1 hfuel)] at h
    cases h
  | succ fuel ih =>
    cases bytes with
    | nil => cases h
    | cons a rest =>
      rw [decodeWithin]
      by_cases hab : b = a
      · subst hab
        rw [firstChar_of_one hb]
        exact List.mem_cons_self
      · refine List.mem_cons_of_mem _ (ih ?_ ?_)
        · rw [List.length_cons] at hfuel
          rw [List.length_drop]
          omega
        · have hrest := (List.mem_cons.1 h).resolve_left hab
          rw [← List.take_append_drop ((firstChar a rest).2 - 1) rest, List.mem_append] at hrest
          exact hrest.resolve_left (not_mem_take_firstChar hb a rest)

/-- A byte below 128 is read as a character of its own, wherever it stands. -/
theorem mem_ofUtf8 {b : UInt8} (hb : b.toNat < 128) {bytes : List UInt8} (h : b ∈ bytes) :
    Char.ofNat b.toNat ∈ (ofUtf8 bytes).toList := by
  rw [ofUtf8, String.toList_ofList]
  exact List.mem_map.2 ⟨_, mem_decodeWithin hb _ (Nat.le_refl _) h, rfl⟩

end PrintClient.Text

namespace PrintClient.Url

/-- The characters with a meaning around the host of a URL. -/
def delimiters : List Char := ['#', '/', ':', '?', '@', '[', '\\', ']']

namespace Domain

/-! ### Composition -/

section Ascii

variable {a b c : Char}

theorem listing?_of_lt (h : c.toNat < 128) (table : List Rule) : listing? table c = none :=
  if_pos h

theorem combiningClass_of_lt (h : c.toNat < 128) : combiningClass c = 0 := by
  rw [combiningClass, listing?_of_lt h]
  rfl

theorem split_of_lt (h : c.toNat < 128) (depth : Nat) : split depth c = [c] := by
  have hsyllable : syllableParts? c = none := if_neg (by omega)
  have htwo : twoParts? c = none := by rw [twoParts?, hsyllable, listing?_of_lt h]
  cases depth with
  | zero => rfl
  | succ depth => rw [split, htwo]

theorem mem_place {d : Char} {k : Nat} {text : List Char} :
    c ∈ place d k text ↔ c = d ∨ c ∈ text := by
  induction text with
  | nil => rw [place, List.mem_singleton]; simp
  | cons e text ih =>
    rw [place]
    split
    · rw [List.mem_cons, ih, List.mem_cons]
      exact or_left_comm
    · rw [List.mem_cons]

/-- Taking a text apart leaves its ASCII characters in it. -/
theorem mem_decomposeReversed (h : c.toNat < 128) {cs : List Char} (hc : c ∈ cs) :
    c ∈ decomposeReversed cs := by
  have hfold (parts out : List Char) (hmem : c ∈ parts ∨ c ∈ out) :
      c ∈ parts.foldl (fun out d =>
        let k := combiningClass d
        if k = 0 then d :: out else place d k out) out := by
    induction parts generalizing out with
    | nil => exact hmem.resolve_left List.not_mem_nil
    | cons d parts ih =>
      rw [List.foldl_cons]
      apply ih
      dsimp only
      have hstep : c = d ∨ c ∈ out → c ∈ (if combiningClass d = 0 then d :: out
          else place d (combiningClass d) out) := by
        intro hd
        split
        · exact List.mem_cons.2 hd
        · exact mem_place.2 hd
      rw [List.mem_cons, or_assoc] at hmem
      rcases hmem with hd | hparts | hout
      · exact .inr (hstep (.inl hd))
      · exact .inl hparts
      · exact .inr (hstep (.inr hout))
  apply hfold
  refine .inl (List.mem_flatMap.2 ⟨c, hc, ?_⟩)
  rw [split_of_lt h]
  exact List.mem_singleton_self c

/-- The characters that no other character is made of. -/
structure IsLone (c : Char) : Prop where
  lt : c.toNat < 128
  unused : ∀ r ∈ compositions, c.toNat ∉ r.target

theorem whole?_eq_none (hsyllable : syllable? a b = none)
    (h : ∀ r ∈ compositions, r.target ≠ [a.toNat, b.toNat]) : whole? a b = none := by
  have hnone : compositions.find? (fun r => r.target = [a.toNat, b.toNat]) = none :=
    List.find?_eq_none.2 fun r hr => by simpa using h r hr
  rw [whole?, hsyllable, hnone]
  rfl

theorem IsLone.whole?_left (h : IsLone a) (b : Char) : whole? a b = none := by
  have ha := h.lt
  have hsyllable : syllable? a b = none := by
    rw [syllable?, if_neg (by omega), if_neg (by omega)]
  exact whole?_eq_none hsyllable fun r hr heq => h.unused r hr (heq ▸ List.mem_cons_self)

theorem IsLone.whole?_right (h : IsLone b) (a : Char) : whole? a b = none := by
  have hb := h.lt
  have hsyllable : syllable? a b = none := by
    rw [syllable?, if_neg (by omega), if_neg (by omega)]
  exact whole?_eq_none hsyllable fun r hr heq =>
    h.unused r hr (heq ▸ List.mem_cons_of_mem _ (List.mem_singleton_self _))

end Ascii

namespace Composing

variable {s : Composing} {c d : Char}

theorem mem_reversed : c ∈ s.reversed ↔ c ∈ s.marks ∨ s.base = some c ∨ c ∈ s.done := by
  rw [reversed, List.mem_append, List.mem_append, Option.mem_toList, or_assoc]

/-- A lone character joins no base. -/
theorem mem_reversed_add_self (h : IsLone c) : c ∈ (s.add c).reversed := by
  rw [add]
  split
  · rename_i w hjoined
    split at hjoined
    · simp only [h.whole?_right, ite_self] at hjoined
      cases hjoined
    · cases hjoined
  · rw [if_pos (combiningClass_of_lt h.lt), mem_reversed]
    exact .inr (.inl rfl)

/-- Nothing joins a lone base. -/
theorem mem_reversed_add (h : IsLone c) (hc : c ∈ s.reversed) (d : Char) :
    c ∈ (s.add d).reversed := by
  rw [add]
  split
  · rename_i w hjoined
    have hbase : s.base ≠ some c := by
      intro hbase
      rw [hbase] at hjoined
      simp only [h.whole?_left, ite_self] at hjoined
      cases hjoined
    rw [mem_reversed] at hc ⊢
    exact hc.imp id fun hc => .inr (hc.resolve_left hbase)
  · split
    · exact mem_reversed.2 (.inr (.inr hc))
    · rw [mem_reversed] at hc ⊢
      exact hc.imp (List.mem_cons_of_mem d) id

theorem mem_reversed_foldl (h : IsLone c) {cs : List Char} (hc : c ∈ cs ∨ c ∈ s.reversed) :
    c ∈ (cs.foldl add s).reversed := by
  induction cs generalizing s with
  | nil => exact hc.resolve_left List.not_mem_nil
  | cons d cs ih =>
    rw [List.foldl_cons]
    rw [List.mem_cons, or_assoc] at hc
    rcases hc with rfl | hcs | hs
    · exact ih (.inr (mem_reversed_add_self h))
    · exact ih (.inl hcs)
    · exact ih (.inr (mem_reversed_add h hs d))

end Composing

/-- **Composition leaves lone characters in the text.** -/
theorem mem_compose {c : Char} (h : IsLone c) {cs : List Char} (hc : c ∈ cs) : c ∈ compose cs := by
  rw [compose]
  split
  · exact hc
  · rw [List.mem_reverse]
    exact Composing.mem_reversed_foldl h
      (.inl (List.mem_reverse.2 (mem_decomposeReversed h.lt hc)))

theorem readRows_cons (cs : List Char) (rows : List String) :
    readRows (String.ofList cs :: rows) = (parts ' ' cs).map Rule.read ++ readRows rows := by
  rw [readRows, List.flatMap_cons, String.toList_ofList]
  rfl

/-- No delimiter is a part of another character. -/
theorem not_mem_target :
    (compositions.all fun r => r.target.all fun n => n ∉ delimiters.map Char.toNat) = true := by
  unfold compositions compositionRows
  -- the letters of a row are much faster to get at without the text around them
  repeat rw [readRows_cons]
  decide +kernel

theorem isLone_of_delimiter {c : Char} (h : c ∈ delimiters) : IsLone c where
  lt := by
    have hall : ∀ c ∈ delimiters, c.toNat < 128 := forall_of_all (by decide)
    exact hall c h
  unused := by
    intro r hr hc
    have htarget := List.all_eq_true.1 (List.all_eq_true.1 not_mem_target r hr) _ hc
    exact of_decide_eq_true htarget (List.mem_map_of_mem h)

/-! ### Names -/

/-- **A name with a delimiter is none.** -/
theorem toAscii?_eq_none {c : Char} (h : c ∈ delimiters) {cs : List Char} (hc : c ∈ cs) :
    toAscii? (Percent.decode cs) = none := by
  have hall : ∀ c ∈ delimiters, String.utf8EncodeChar c = [UInt8.ofNat c.toNat] ∧
      (UInt8.ofNat c.toNat).toNat = c.toNat ∧ UInt8.ofNat c.toNat ≠ 0x25 ∧
      Percent.hexValue? (UInt8.ofNat c.toNat) = none ∧ foldChar c = [c] ∧ isRefused c = true :=
    forall_of_all (by decide)
  obtain ⟨hencode, hbyte, hpercent, hdigit, hfold, hrefused⟩ := hall c h
  have hlone := isLone_of_delimiter h
  have hbytes : UInt8.ofNat c.toNat ∈ Percent.decode cs := by
    refine Percent.mem_decodeBytes hpercent hdigit (List.mem_flatMap.2 ⟨c, hc, ?_⟩)
    rw [hencode]
    exact List.mem_singleton_self _
  have hchars : c ∈ (Text.ofUtf8 (Percent.decode cs)).toList := by
    have hmem := Text.mem_ofUtf8 (by rw [hbyte]; exact hlone.lt) hbytes
    rwa [hbyte, Char.ofNat_toNat] at hmem
  have hfolded : c ∈ fold (Text.ofUtf8 (Percent.decode cs)).toList := by
    refine mem_compose hlone (List.mem_flatMap.2 ⟨c, hchars, ?_⟩)
    rw [hfold]
    exact List.mem_singleton_self c
  rw [toAscii?]
  exact if_pos (List.any_eq_true.2 ⟨c, hfolded, hrefused⟩)

end Domain

/-! ### Addresses -/

namespace Address6

/-- The characters of addresses: hexadecimal digits, colons and points. -/
def isAddressChar (c : Char) : Bool :=
  c.isDigit || ('a' ≤ c && c ≤ 'f') || ('A' ≤ c && c ≤ 'F') || c = ':' || c = '.'

/-- All characters are those of addresses. -/
def Spells (cs : List Char) : Prop := ∀ c ∈ cs, isAddressChar c = true

section Spells

variable {cs rest : List Char}

theorem spells_nil : Spells [] := fun _ h => absurd h List.not_mem_nil

theorem Spells.cons {c : Char} (hc : isAddressChar c = true) (h : Spells cs) : Spells (c :: cs) :=
  List.forall_mem_cons.2 ⟨hc, h⟩

theorem Spells.append (h : Spells cs) (hrest : Spells rest) : Spells (cs ++ rest) :=
  fun c hc => (List.mem_append.1 hc).elim (h c) (hrest c)

theorem spells_of_digits (h : ∀ c ∈ cs, c.isDigit = true) : Spells cs :=
  fun c hc => by simp [isAddressChar, h c hc]

/-- The digits of a piece stand in front of the rest. -/
theorem spells_of_readPiece (h : Spells (readPiece cs).2.2) : Spells cs := by
  unfold readPiece at h
  dsimp only at h
  obtain ⟨isHex, hisHex⟩ : ∃ isHex : Char → Bool,
      isHex = fun c => c.isDigit || ('a' ≤ c && c ≤ 'f') || ('A' ≤ c && c ≤ 'F') := ⟨_, rfl⟩
  rw [← hisHex] at h
  have hdigits : Spells ((cs.take 4).takeWhile isHex) := by
    intro c hc
    have hhex := List.all_eq_true.1 List.all_takeWhile c hc
    rw [hisHex] at hhex
    simp only [isAddressChar, Bool.or_eq_true] at hhex ⊢
    exact .inl (.inl hhex)
  rw [← List.prefix_iff_eq_append.1
    ((List.takeWhile_prefix isHex).trans (List.take_prefix 4 cs))]
  exact hdigits.append h

/-- So do the digits of a number. -/
theorem spells_of_readByte? {n : Nat} (hread : readByte? cs = some (n, rest)) (h : Spells rest) :
    Spells cs := by
  have hrest : rest = cs.drop (cs.takeWhile Char.isDigit).length := by
    unfold readByte? at hread
    dsimp only at hread
    split at hread
    · cases hread
    · cases hread
    · split at hread
      · cases hread
        rfl
      · cases hread
  rw [← List.prefix_iff_eq_append.1 (List.takeWhile_prefix Char.isDigit (l := cs)), ← hrest]
  exact (spells_of_digits (List.all_eq_true.1 List.all_takeWhile)).append h

/-- A point, with what is read behind it. -/
theorem exists_of_point {α : Type} {next : List Char → Option α} {out : α}
    (h : (if rest.head? = some '.' then some rest.tail >>= next else none >>= next) = some out) :
    ∃ tail, next tail = some out ∧ (Spells tail → Spells rest) := by
  by_cases hpoint : rest.head? = some '.'
  · rw [if_pos hpoint] at h
    refine ⟨rest.tail, h, fun htail => ?_⟩
    cases rest with
    | nil => cases hpoint
    | cons c rest =>
      cases hpoint
      exact htail.cons (by decide)
  · rw [if_neg hpoint] at h
    cases h

theorem spells_of_readEmbedded? {pieces : List Nat} (h : readEmbedded? cs = some pieces) :
    Spells cs := by
  unfold readEmbedded? at h
  dsimp only at h
  obtain ⟨⟨a, rest⟩, ha, h⟩ := Option.bind_eq_some_iff.1 h
  obtain ⟨second, h, hfirst⟩ := exists_of_point h
  obtain ⟨⟨b, rest⟩, hb, h⟩ := Option.bind_eq_some_iff.1 h
  obtain ⟨third, h, hsecond⟩ := exists_of_point h
  obtain ⟨⟨c, rest⟩, hc, h⟩ := Option.bind_eq_some_iff.1 h
  obtain ⟨last, h, hthird⟩ := exists_of_point h
  obtain ⟨⟨d, rest⟩, hd, h⟩ := Option.bind_eq_some_iff.1 h
  dsimp only at h
  split at h
  · rename_i hend
    subst hend
    have hlast : Spells last := spells_of_readByte? hd spells_nil
    have hthird : Spells third := spells_of_readByte? hc (hthird hlast)
    have hsecond : Spells second := spells_of_readByte? hb (hsecond hthird)
    exact spells_of_readByte? ha (hfirst hsecond)
  · cases h

theorem spells_of_readPieces? {fuel : Nat} {pieces : List Nat} {gap : Option Nat}
    {out : List Nat × Option Nat} (h : readPieces? fuel pieces gap cs = some out) : Spells cs := by
  have hcolon {rest : List Char} (h : Spells rest) : Spells (':' :: rest) := h.cons (by decide)
  induction fuel generalizing cs pieces gap with
  | zero => cases h
  | succ fuel ih =>
    unfold readPieces? at h
    dsimp only at h
    generalize pieces.length + (if gap.isSome then 1 else 0) = places at h
    split at h
    · exact spells_nil
    · split at h
      · cases h
      · exact hcolon (ih h)
    · split at h
      · cases h
      · split at h
        · split at h
          · cases h
          · -- the embedded address begins with the digits that were read as a piece
            obtain ⟨last, hlast, -⟩ := Option.map_eq_some_iff.1 h
            exact spells_of_readEmbedded? hlast
        · rename_i hrest
          exact spells_of_readPiece (hrest ▸ spells_nil)
        · cases h
        · rename_i hrest
          exact spells_of_readPiece (hrest ▸ hcolon (ih h))
        · cases h

/-- **An address is written with the characters of addresses.** -/
theorem spells_of_parse? {pieces : List Nat} (h : parse? cs = some pieces) : Spells cs := by
  have hcolon {rest : List Char} (h : Spells rest) : Spells (':' :: rest) := h.cons (by decide)
  have hread (gap : Option Nat) {cs : List Char}
      (h : readPieces? (cs.length + 1) [] gap cs ≠ none) : Spells cs := by
    obtain ⟨out, hout⟩ := Option.ne_none_iff_exists'.1 h
    exact spells_of_readPieces? hout
  unfold parse? at h
  dsimp only at h
  split at h
  · cases h
  · rename_i gap rest hstart
    have hrest : Spells rest := by
      refine hread gap fun hnone => ?_
      rw [hnone] at h
      cases h
    split at hstart
    · cases hstart
      exact hcolon (hcolon hrest)
    · cases hstart
    · cases hstart
      exact hrest

end Spells

end Address6

/-! ### Hosts -/

namespace Host

variable {cs : List Char} {host : Host}

theorem spells_of_parseBracketed (h : parseBracketed cs = .ok host) :
    ∃ address, cs = address ++ [']'] ∧ Address6.Spells address := by
  unfold parseBracketed at h
  by_cases hlast : cs.getLast? = some ']'
  · rw [if_pos hlast] at h
    obtain ⟨address, rfl⟩ := List.getLast?_eq_some_iff.1 hlast
    refine ⟨address, rfl, ?_⟩
    rw [List.dropLast_concat] at h
    split at h
    · rename_i hparse
      exact Address6.spells_of_parse? hparse
    · cases h
  · rw [if_neg hlast] at h
    cases h

/-- A host is an address in brackets, or a name without delimiters. -/
theorem cases_of_parse (h : parse cs = .ok host) :
    (∃ address, cs = '[' :: address ++ [']'] ∧ Address6.Spells address) ∨
      ∀ c ∈ delimiters, c ∉ cs := by
  unfold parse at h
  split at h
  · obtain ⟨address, rfl, haddress⟩ := spells_of_parseBracketed h
    exact .inl ⟨address, rfl, haddress⟩
  · refine .inr fun c hc hmem => ?_
    rw [Domain.toAscii?_eq_none hc hmem] at h
    cases h

/-- **The characters that end a host, or what stands before it, are in no host.** -/
theorem not_mem_of_parse (h : parse cs = .ok host) :
    ∀ c ∈ ['#', '/', '?', '@', '\\'], c ∉ cs := by
  have hall : ∀ c ∈ ['#', '/', '?', '@', '\\'], c ∈ delimiters ∧ c ≠ '[' ∧ c ≠ ']' ∧
      Address6.isAddressChar c = false :=
    forall_of_all (by decide)
  intro c hc hmem
  obtain ⟨hdelimiter, hopen, hclose, hother⟩ := hall c hc
  rcases cases_of_parse h with ⟨address, rfl, haddress⟩ | hname
  · simp only [List.cons_append, List.mem_cons, List.mem_append, List.not_mem_nil, hopen,
      hclose, false_or, or_false] at hmem
    rw [haddress c hmem] at hother
    cases hother
  · exact hname c hdelimiter hmem

end Host

end PrintClient.Url
