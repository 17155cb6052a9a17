import Mathlib.Data.List.Basic
import PrintClient.Json.Printer
import PrintClient.Proofs.Json.Spelling

/-!
# Numbers are written as numbers

What the printer writes for a number is a number of the grammar. A whole number is read back
exactly. For a fraction the digits are laid out with a point or an exponent, and no zero stands in
front.

* `isDigits_toDigits`, `digitsValue_toDigits`, `toDigits_of_head_zero`: decimal digits;
* `writes_integer`: whole numbers;
* `Decimal.scale_of_digits_eq_zero`: only zero has the digit `0` alone;
* `writes_placed`, `writes_scientific`, `writes_real`: fractions.
-/

namespace PrintClient

/-! ### The shortest decimal -/

namespace Decimal

variable {i : Interval} {d : Decimal} {scale top : Int}

/-- Zero is in no interval of a number that is not zero. -/
theorem contains_zero (h : 0 < i.low) (scale : Int) :
    i.contains (ratio ⟨0, scale⟩).1 (ratio ⟨0, scale⟩).2 = false := by
  have hden : 0 < tenTo (-scale).toNat := Nat.pow_pos (by decide)
  have hlow : 0 < i.low * tenTo (-scale).toNat := Nat.mul_pos h hden
  unfold Interval.contains ratio
  dsimp only
  rw [Nat.zero_mul, Nat.zero_mul]
  split
  · rw [decide_eq_false (Nat.not_le.2 hlow), Bool.false_and]
  · rw [decide_eq_false (Nat.not_lt_zero _), Bool.false_and]

theorem onGrid_digits_ne_zero (h : 0 < i.low) (hd : onGrid i scale = some d) : d.digits ≠ 0 := by
  have hinside : i.contains d.ratio.1 d.ratio.2 = true := by
    unfold onGrid at hd
    dsimp only at hd
    split at hd
    · rename_i hlower hupper
      split at hd
      · cases hd
        exact hlower
      · split at hd
        · cases hd
          exact hupper
        · split at hd <;> cases hd
          · exact hlower
          · exact hupper
    · rename_i hlower _
      cases hd
      exact hlower
    · rename_i hupper
      cases hd
      exact hupper
    · cases hd
  intro hzero
  obtain ⟨digits, scale⟩ := d
  cases hzero
  rw [contains_zero h] at hinside
  cases hinside

theorem search_digits_ne_zero (h : 0 < i.low) (n left : Nat) (hd : search i top n left = some d) :
    d.digits ≠ 0 := by
  induction left generalizing n with
  | zero => cases hd
  | succ left ih =>
    rw [search] at hd
    split at hd
    · rename_i hgrid
      cases hd
      exact onGrid_digits_ne_zero h hgrid
    · exact ih (n + 1) hd

theorem trim_digits_ne_zero {digits : Nat} (h : digits ≠ 0) (scale : Int) (n : Nat) :
    (trim digits scale n).digits ≠ 0 := by
  induction n generalizing digits scale with
  | zero => exact h
  | succ n ih =>
    rw [trim]
    split
    · rename_i hten
      exact ih (by omega) (scale + 1)
    · exact h

theorem low_interval_pos {x : Binary64} (h : x.mantissa ≠ 0) : 0 < x.interval.low := by
  have hup : 0 < twoTo (x.exponent - 2).toNat := Nat.pow_pos (by decide)
  unfold Binary64.interval
  dsimp only
  refine Nat.mul_pos ?_ hup
  split <;> omega

/-- Only zero has no digit but `0`, and then it has no scale. -/
theorem scale_of_digits_eq_zero {x : Binary64} (h : (shortest x).digits = 0) :
    (shortest x).scale = 0 := by
  by_cases hzero : x.isZero = true
  · rw [shortest, if_pos hzero]
  · have hlow : 0 < x.interval.low := low_interval_pos (by simpa [Binary64.isZero] using hzero)
    rw [shortest, if_neg hzero] at h ⊢
    dsimp only at h ⊢
    cases hsearch : search x.interval (leading x.interval.value x.interval.den) 0 17 with
    | none => rfl
    | some d =>
      rw [hsearch] at h
      exact absurd h (trim_digits_ne_zero (search_digits_ne_zero hlow 0 17 hsearch) d.scale 17)

end Decimal

namespace Json

/-! ### Decimal digits -/

section Digits

variable {n : Nat} {ds es zeros : List Char}

theorem isDigits_toDigits (n : Nat) : IsDigits (Nat.toDigits 10 n) :=
  ⟨Nat.toDigits_ne_nil, fun _ hd => Nat.isDigit_of_mem_toDigits (by decide) (by decide) hd⟩

theorem digitsValue_toDigits (n : Nat) : digitsValue (Nat.toDigits 10 n) = n := by
  have hfold : digitsValue (Nat.toDigits 10 n) = Nat.ofDigitChars 10 (Nat.toDigits 10 n) 0 := by
    rw [Nat.ofDigitChars_eq_foldl, digitsValue]
    congr 1
    funext acc c
    rw [Nat.mul_comm]
    rfl
  rw [hfold, Nat.ofDigitChars_ten_toDigits]

/-- No zero stands in front of another digit. -/
theorem toDigits_of_head_zero (h : (Nat.toDigits 10 n).head? = some '0') : n = 0 := by
  induction n using Nat.strongRecOn with
  | _ n ih =>
    by_cases hlt : n < 10
    · rw [Nat.toDigits_of_lt_base hlt] at h
      simpa using h
    · rw [Nat.toDigits_of_base_le (by decide) (by omega),
        List.head?_append_of_ne_nil _ Nat.toDigits_ne_nil] at h
      have hzero := ih (n / 10) (by omega) h
      omega

theorem isDigits_single {d : Char} (h : d.isDigit = true) : IsDigits [d] :=
  ⟨List.cons_ne_nil _ _, List.forall_mem_singleton.2 h⟩

theorem IsDigits.append (h : IsDigits ds) (hes : ∀ d ∈ es, d.isDigit = true) :
    IsDigits (ds ++ es) where
  ne_nil := List.append_ne_nil_of_left_ne_nil h.ne_nil es
  digits := fun d hd => (List.mem_append.1 hd).elim (h.digits d) (hes d)

theorem isDigit_replicate (k : Nat) : ∀ d ∈ List.replicate k '0', d.isDigit = true := by
  intro d hd
  rw [List.eq_of_mem_replicate hd]
  rfl

end Digits

/-! ### Whole numbers -/

/-- The digits of a number without a sign, a fraction and an exponent. -/
theorem writesUnsigned_toDigits (negative : Bool) (n : Nat) :
    WritesUnsigned ⟨negative, Nat.toDigits 10 n, [], none⟩ (Nat.toDigits 10 n) where
  whole := isDigits_toDigits n
  zero := by
    intro h
    obtain rfl := toDigits_of_head_zero h
    rfl
  parts := ⟨[], [], .absent, .absent, by simp⟩

/-- **A whole number is written as a number, and read back exactly.** -/
theorem writes_integer (i : WideInt) :
    ∃ l, WritesNumber l (numberChars (.integer i)) ∧ l.number? = some (.integer i) := by
  obtain ⟨i, hi⟩ := i
  have hchars : numberChars (.integer ⟨i, hi⟩) = (Int.repr i).toList := rfl
  rw [hchars, Int.repr_eq_if]
  split
  · rename_i hpos
    rw [Nat.toList_repr]
    refine ⟨_, .positive rfl (writesUnsigned_toDigits false i.toNat),
      Lexeme.number?_of_whole ⟨rfl, rfl, ?_, fun h => absurd h Bool.false_ne_true⟩ hi⟩
    rw [Lexeme.wholeValue, if_neg Bool.false_ne_true, digitsValue_toDigits]
    exact Int.toNat_of_nonneg hpos
  · rename_i hneg
    rw [String.toList_append, Nat.toList_repr]
    refine ⟨_, .negative rfl (writesUnsigned_toDigits true (-i).toNat),
      Lexeme.number?_of_whole ⟨rfl, rfl, ?_, fun _ => by omega⟩ hi⟩
    rw [Lexeme.wholeValue, if_pos rfl, digitsValue_toDigits]
    omega

/-! ### Fractions -/

section Fractions

open Decimal (Layout placed scientific renderChars shortest)

/-- Digits that are laid out with a point are a number, if only zero has no digit but `0`. -/
theorem writes_placed (negative : Bool) {n : Nat} {scale : Int} (h : n = 0 → scale = 0) :
    ∃ l : Lexeme, l.negative = negative ∧ WritesUnsigned l
      (placed .json (Nat.toDigits 10 n) ((Nat.toDigits 10 n).length + scale)) := by
  have hdigits := isDigits_toDigits n
  have hhead : (Nat.toDigits 10 n).head? = some '0' → Nat.toDigits 10 n = ['0'] ∧ scale = 0 := by
    intro hzero
    obtain rfl := toDigits_of_head_zero hzero
    exact ⟨rfl, h rfl⟩
  generalize Nat.toDigits 10 n = ds at hdigits hhead
  unfold placed
  dsimp only
  split
  · -- All digits stand before the point.
    generalize hk : ((ds.length + scale) - ds.length : Int).toNat = k
    refine ⟨⟨negative, ds ++ List.replicate k '0', ['0'], none⟩, rfl,
      hdigits.append (isDigit_replicate k), fun hzero => ?_,
      ['.', '0'], [], .digits (isDigits_single rfl), .absent, rfl⟩
    rw [List.head?_append_of_ne_nil _ hdigits.ne_nil] at hzero
    obtain ⟨hds, rfl⟩ := hhead hzero
    have hnone : k = 0 := by omega
    rw [hds, hnone]
    rfl
  · rename_i hfraction
    split
    · -- The point stands among the digits.
      rename_i hwhole
      generalize hw : ((ds.length : Int) + scale).toNat = w
      have hpos : 0 < w := by omega
      have hlt : w < ds.length := by omega
      have hne : ds.drop w ≠ [] := fun hnil => by
        rw [List.drop_eq_nil_iff] at hnil
        omega
      refine ⟨⟨negative, ds.take w, ds.drop w, none⟩, rfl,
        ⟨fun hnil => ?_, fun d hd => hdigits.digits d (List.mem_of_mem_take hd)⟩, fun hzero => ?_,
        '.' :: ds.drop w, [], .digits ⟨hne, fun d hd => hdigits.digits d (List.mem_of_mem_drop hd)⟩,
        .absent, by rw [List.append_nil]⟩
      · rcases List.take_eq_nil_iff.1 hnil with hw | hnil
        · omega
        · exact hdigits.ne_nil hnil
      · have hzero : ds.head? = some '0' := by
          rwa [List.head?_take, if_neg (by omega)] at hzero
        have hone := congrArg List.length (hhead hzero).1
        rw [List.length_singleton] at hone
        omega
    · -- A zero stands before the point.
      refine ⟨⟨negative, ['0'], List.replicate _ '0' ++ ds, none⟩, rfl, isDigits_single rfl,
        fun _ => rfl, _, [],
        .digits ⟨List.append_ne_nil_of_right_ne_nil _ hdigits.ne_nil, fun d hd => ?_⟩, .absent,
        by rw [List.append_nil]; rfl⟩
      exact (List.mem_append.1 hd).elim (isDigit_replicate _ d) (hdigits.digits d)

/-- The exponent as it is laid out, with a sign. -/
theorem writes_exponent (top : Int) :
    ∃ e, WritesExponent e ('e' :: ((if top < 0 then ['-'] else if Layout.json.plus then ['+'] else
      []) ++ Nat.toDigits 10 top.natAbs)) := by
  split
  · exact ⟨_, .minus (.inl rfl) (isDigits_toDigits _)⟩
  · exact ⟨_, .plus (.inl rfl) (isDigits_toDigits _)⟩

/-- Digits that are laid out with an exponent are a number. -/
theorem writes_scientific (negative : Bool) (n : Nat) (top : Int) :
    ∃ l : Lexeme, l.negative = negative ∧
      WritesUnsigned l (scientific .json (Nat.toDigits 10 n) top) := by
  obtain ⟨e, he⟩ := writes_exponent top
  have hdigits := isDigits_toDigits n
  generalize Nat.toDigits 10 n = ds at hdigits
  have hfirst {d : Char} {rest : List Char} (hds : IsDigits (d :: rest)) : IsDigits [d] :=
    isDigits_single (hds.digits d List.mem_cons_self)
  unfold scientific
  dsimp only
  match ds, hdigits with
  | [], hdigits => exact absurd rfl hdigits.ne_nil
  | [d], hdigits =>
    refine ⟨⟨negative, [d], [], e⟩, rfl, hfirst hdigits, fun hzero => ?_, [], _, .absent, he, rfl⟩
    cases hzero
    rfl
  | d :: d' :: rest, hdigits =>
    refine ⟨⟨negative, [d], d' :: rest, e⟩, rfl, hfirst hdigits, fun hzero => ?_,
      '.' :: d' :: rest, _, .digits ⟨List.cons_ne_nil _ _, fun c hc => ?_⟩, he, rfl⟩
    · cases hzero
      rfl
    · exact hdigits.digits c (List.mem_cons_of_mem _ hc)

/-- **Every fraction is written as a number.** -/
theorem writes_real (x : Binary64) : ∃ l, WritesNumber l (numberChars (.real x)) := by
  obtain ⟨l, hsign, hl⟩ : ∃ l : Lexeme, l.negative = x.negative ∧ WritesUnsigned l
      (if Layout.json.isPositional ((Nat.toDigits 10 (shortest x).digits).length +
          (shortest x).scale - 1) then
        placed .json (Nat.toDigits 10 (shortest x).digits)
          ((Nat.toDigits 10 (shortest x).digits).length + (shortest x).scale)
      else scientific .json (Nat.toDigits 10 (shortest x).digits)
        ((Nat.toDigits 10 (shortest x).digits).length + (shortest x).scale - 1)) := by
    split
    · exact writes_placed x.negative Decimal.scale_of_digits_eq_zero
    · exact writes_scientific x.negative _ _
  refine ⟨l, ?_⟩
  unfold numberChars renderChars
  dsimp only
  cases hx : x.negative with
  | false => exact .positive (hsign.trans hx) hl
  | true => exact .negative (hsign.trans hx) hl

end Fractions

end Json

end PrintClient
