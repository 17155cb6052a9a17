import Mathlib.Data.List.TakeWhile
import PrintClient.Proofs.Config.Sources

/-!
# Variables of letters and digits

The value of a variable is read before anybody knows what it is for. A text of letters and digits
has no marks that could tell its kind, so it is a truth value or a whole number where it spells one,
and a text only where it spells neither.

* `AreAlphanumeric`: letters and digits; they are no signs, no blanks and no marks;
* `readPlain_of_areAlphanumeric`: they are a whole number if they are digits;
* `readSetting_of_areAlphanumeric`: what a text of letters and digits stands for;
* `StandsForItself`, `readText_readSetting`: when it is read as it stands.
-/

namespace PrintClient.Config

variable {c d : Char} {cs : List Char} {s : String}

/-! ### Letters and digits -/

/-- Letters and digits. -/
def AreAlphanumeric (cs : List Char) : Prop := ∀ c ∈ cs, c.isAlphanum = true

instance (cs : List Char) : Decidable (AreAlphanumeric cs) :=
  List.decidableBAll _ cs

theorem ne_of_isAlphanum (hc : c.isAlphanum = true) (hd : d.isAlphanum = false) : c ≠ d := by
  rintro rfl
  rw [hc] at hd
  cases hd

theorem bounds_of_isAlphanum (h : c.isAlphanum = true) : 48 ≤ c.toNat ∧ c.toNat ≤ 122 := by
  unfold Char.isAlphanum Char.isAlpha Char.isUpper Char.isLower Char.isDigit at h
  simp only [Bool.or_eq_true, Bool.and_eq_true, decide_eq_true_eq, ge_iff_le,
    UInt32.le_iff_toNat_le] at h
  rcases h with (⟨h₁, h₂⟩ | ⟨h₁, h₂⟩) | ⟨h₁, h₂⟩
  · change 65 ≤ c.toNat at h₁
    change c.toNat ≤ 90 at h₂
    omega
  · change 97 ≤ c.toNat at h₁
    change c.toNat ≤ 122 at h₂
    omega
  · change 48 ≤ c.toNat at h₁
    change c.toNat ≤ 57 at h₂
    omega

theorem isBlank_of_isAlphanum (h : c.isAlphanum = true) : Text.isBlank c = false := by
  have hbounds := bounds_of_isAlphanum h
  simp only [Text.isBlank, Bool.or_eq_false_iff, Bool.and_eq_false_iff, decide_eq_false_iff_not,
    beq_eq_false_iff_ne]
  omega

theorem isSpace_of_isAlphanum (h : c.isAlphanum = true) : isSpace c = false := by
  simp only [isSpace, Bool.or_eq_false_iff, decide_eq_false_iff_not]
  refine ⟨⟨⟨⟨?_, ?_⟩, ?_⟩, ?_⟩, ?_⟩ <;> exact ne_of_isAlphanum h (by decide)

theorem isSeparator_of_isAlphanum (h : c.isAlphanum = true) : isSeparator c = false := by
  simp only [isSeparator, Bool.or_eq_false_iff, decide_eq_false_iff_not]
  refine ⟨⟨⟨⟨?_, ?_⟩, ?_⟩, ?_⟩, ?_⟩ <;> exact ne_of_isAlphanum h (by decide)

theorem dropWhile_of_forall_not {p : Char → Bool} (h : ∀ c ∈ cs, p c = false) :
    cs.dropWhile p = cs := by
  cases cs with
  | nil => rfl
  | cons c cs => exact List.dropWhile_cons_of_neg (by simp [h c List.mem_cons_self])

theorem trimChars_of_forall_not (h : ∀ c ∈ cs, Text.isBlank c = false) :
    Text.trimChars cs = cs := by
  have hback : cs.reverse.dropWhile Text.isBlank = cs.reverse :=
    dropWhile_of_forall_not fun c hc => h c (List.mem_reverse.1 hc)
  rw [Text.trimChars, dropWhile_of_forall_not h, hback, List.reverse_reverse]

/-! ### Numbers -/

/-- Letters and digits have no sign in front. -/
theorem signOf_of_areAlphanumeric (h : AreAlphanumeric cs) : signOf cs = (false, cs) := by
  unfold signOf
  split
  · exact absurd (h '+' List.mem_cons_self) (by decide)
  · exact absurd (h '-' List.mem_cons_self) (by decide)
  · rfl

theorem readUnsigned?_of_areAlphanumeric (h : AreAlphanumeric cs) (hne : cs ≠ []) :
    readUnsigned? cs = if cs.all Char.isDigit ∧ Binary64.digitsValue cs < UInt64.size then
      some (Binary64.digitsValue cs) else none := by
  unfold readUnsigned?
  split
  · exact absurd (h '+' List.mem_cons_self) (by decide)
  · by_cases hdigits : cs.all Char.isDigit = true
    · simp [hne, hdigits]
    · simp [hdigits]

/-- What is too large for an unsigned word is too large for a signed one. -/
theorem readSigned?_of_areAlphanumeric (h : AreAlphanumeric cs)
    (hlarge : cs.all Char.isDigit = true → UInt64.size ≤ Binary64.digitsValue cs) :
    readSigned? cs = none := by
  unfold readSigned?
  rw [signOf_of_areAlphanumeric h]
  by_cases hdigits : cs.all Char.isDigit = true
  · have hnot : ¬ Word.IsSigned (Binary64.digitsValue cs : Int) := by
      rintro ⟨-, hlt⟩
      have hle := hlarge hdigits
      simp only [Word.signedBound, UInt64.size] at hlt hle
      omega
    simp [hnot]
  · simp [hdigits]

/-- Letters and digits are a whole number if they are digits, and not too many. -/
theorem readPlain_of_areAlphanumeric (h : AreAlphanumeric cs) (hne : cs ≠ []) :
    readPlain cs = if cs.all Char.isDigit ∧ Binary64.digitsValue cs < UInt64.size then
      .unsigned (Binary64.digitsValue cs) else .text (String.ofList cs) := by
  have hpoint : '.' ∉ cs := fun hmem => absurd (h '.' hmem) (by decide)
  unfold readPlain
  rw [if_neg hpoint, readUnsigned?_of_areAlphanumeric h hne]
  split_ifs with hnumber
  · rfl
  · rw [readSigned?_of_areAlphanumeric h fun hdigits =>
      Nat.le_of_not_lt fun hlt => hnumber ⟨hdigits, hlt⟩]

/-! ### Texts -/

/-- A text that is read as it stands: it spells no truth value and no whole number of 64 bits. -/
structure StandsForItself (s : String) : Prop where
  truth : s ≠ "true" ∧ s ≠ "false"
  number : s.toList.all Char.isDigit = true → UInt64.size ≤ Binary64.digitsValue s.toList

instance (s : String) : Decidable (StandsForItself s) :=
  decidable_of_iff ((s ≠ "true" ∧ s ≠ "false") ∧
    (s.toList.all Char.isDigit = true → UInt64.size ≤ Binary64.digitsValue s.toList))
    ⟨fun h => ⟨h.1, h.2⟩, fun h => ⟨h.truth, h.number⟩⟩

/-- Letters and digits are read up to their end; behind a truth value nothing may follow. -/
theorem readValue?_of_areAlphanumeric (h : AreAlphanumeric cs) (fuel : Nat) :
    readValue? (fuel + 1) cs = match cs with
      | 't' :: 'r' :: 'u' :: 'e' :: rest => some (.truth true, rest)
      | 'f' :: 'a' :: 'l' :: 's' :: 'e' :: rest => some (.truth false, rest)
      | _ => some (readPlain cs, []) := by
  have hspace {cs : List Char} (h : AreAlphanumeric cs) : cs.dropWhile isSpace = cs :=
    dropWhile_of_forall_not fun c hc => isSpace_of_isAlphanum (h c hc)
  have hwhole : cs.takeWhile (!isSeparator ·) = cs ∧ cs.dropWhile (!isSeparator ·) = [] := by
    have hall : ∀ c ∈ cs, (!isSeparator c) = true := fun c hc => by
      simp [isSeparator_of_isAlphanum (h c hc)]
    exact ⟨List.takeWhile_eq_self_iff.2 hall, List.dropWhile_eq_nil_iff.2 hall⟩
  have hnot {c : Char} (hc : c.isAlphanum = false) : c ∉ cs := fun hmem => by
    rw [h c hmem] at hc
    cases hc
  simp only [readValue?, hspace h]
  split
  · rename_i rest
    have hrest : AreAlphanumeric rest := fun c hc => h c (by simp [hc])
    simp [hspace hrest]
  · rename_i rest
    have hrest : AreAlphanumeric rest := fun c hc => h c (by simp [hc])
    simp [hspace hrest]
  · exact absurd List.mem_cons_self (hnot (c := '\x7b') (by decide))
  · exact absurd List.mem_cons_self (hnot (c := '[') (by decide))
  · exact absurd List.mem_cons_self (hnot (c := '\x22') (by decide))
  · exact absurd List.mem_cons_self (hnot (c := '\x27') (by decide))
  · exact absurd List.mem_cons_self (hnot (c := '\x27') (by decide))
  · rename_i htrue hfalse _ _ _ _ _
    rw [hwhole.1, hwhole.2, trimChars_of_forall_not fun c hc => isBlank_of_isAlphanum (h c hc)]
    split
    · exact absurd rfl (htrue _)
    · exact absurd rfl (hfalse _)
    · rfl

/-- **What a text of letters and digits stands for.** -/
theorem readSetting_of_areAlphanumeric (h : AreAlphanumeric s.toList) (hne : s ≠ "") :
    readSetting s = if s = "true" then .truth true else if s = "false" then .truth false
      else if s.toList.all Char.isDigit ∧ Binary64.digitsValue s.toList < UInt64.size then
        .unsigned (Binary64.digitsValue s.toList) else .text s := by
  have hcs : s.toList ≠ [] := fun hnil => hne (String.toList_inj.1 hnil)
  by_cases htrue : s = "true"
  · subst htrue
    rfl
  by_cases hfalse : s = "false"
  · subst hfalse
    rfl
  rw [if_neg htrue, if_neg hfalse]
  have hplain := readPlain_of_areAlphanumeric h hcs
  rw [String.ofList_toList] at hplain
  unfold readSetting
  dsimp only
  rw [readValue?_of_areAlphanumeric h]
  -- either nothing follows a truth value, or what begins like one is no number
  split
  · rename_i heq
    split at heq
    · cases heq
      exact absurd (String.toList_inj.1 ‹s.toList = _›) htrue
    · cases heq
      exact absurd (String.toList_inj.1 ‹s.toList = _›) hfalse
    · cases heq
      exact hplain
  · rename_i hmore
    rw [if_neg]
    rintro ⟨hdigits, -⟩
    split at hmore
    · rw [‹s.toList = _›] at hdigits
      cases hdigits
    · rw [‹s.toList = _›] at hdigits
      cases hdigits
    · exact hmore _ rfl

/-- A text of letters and digits is read as it stands, or as something that is no text. -/
theorem readSetting_eq_text_iff (h : AreAlphanumeric s.toList) (hne : s ≠ "") :
    readSetting s = .text s ↔ StandsForItself s := by
  rw [readSetting_of_areAlphanumeric h hne]
  constructor
  · intro heq
    split_ifs at heq with htrue hfalse hnumber
    exact ⟨⟨htrue, hfalse⟩, fun hdigits => Nat.le_of_not_lt fun hlt => hnumber ⟨hdigits, hlt⟩⟩
  · rintro ⟨⟨htrue, hfalse⟩, hnumber⟩
    rw [if_neg htrue, if_neg hfalse, if_neg]
    rintro ⟨hdigits, hlt⟩
    exact absurd hlt (Nat.not_lt.2 (hnumber hdigits))

/-- **A text of letters and digits is read as it stands, or refused where a text is wanted.** -/
theorem readText_readSetting (h : AreAlphanumeric s.toList) (hne : s ≠ "") :
    readText (readSetting s) = if StandsForItself s then .ok s
      else .error ⟨[], .wrongType (readSetting s).found .text⟩ := by
  by_cases hself : StandsForItself s
  · rw [if_pos hself, (readSetting_eq_text_iff h hne).2 hself]
    rfl
  · rw [if_neg hself]
    have hnot : readSetting s ≠ .text s :=
      fun htext => hself ((readSetting_eq_text_iff h hne).1 htext)
    rw [readSetting_of_areAlphanumeric h hne] at hnot ⊢
    split_ifs at hnot ⊢
    · rfl
    · rfl
    · rfl
    · exact absurd rfl hnot

theorem readSetting_ne_table (h : AreAlphanumeric s.toList) (hne : s ≠ "")
    (entries : Dict Setting) : readSetting s ≠ .table entries := by
  rw [readSetting_of_areAlphanumeric h hne]
  split_ifs <;> nofun

end PrintClient.Config
