import Mathlib.Data.List.TakeDrop
import PrintClient.Json.Token

/-!
# How tokens are written

The written forms of JSON tokens, as the grammar has them, and that cutting a text into tokens finds
the tokens that were written, with any blanks between them.

* `IsDigits`, `WritesNumber`: numbers;
* `WritesPiece`, `WritesPieces`: the body of a string;
* `Writes`, `Spells`: a token, and a text of tokens;
* `Lexeme.number?_of_whole`: a whole number is read exactly;
* `EndsNumber`, `scanNumber_append`, `scanString_append`, `scanToken_append`: one token is found;
* `Apart`, `tokens_of_spells`: all tokens are found.
-/

namespace PrintClient.Json

/-! ### The grammar -/

/-- A row of digits, which is not empty. -/
structure IsDigits (ds : List Char) : Prop where
  ne_nil : ds ≠ []
  digits : ∀ d ∈ ds, d.isDigit = true

/-- The number that digits denote. -/
def digitsValue (ds : List Char) : Nat := ds.foldl (fun n d => n * 10 + digitValue d) 0

/-- The written forms of a fraction. -/
inductive WritesFraction : List Char → List Char → Prop
  | absent : WritesFraction [] []
  | digits {ds : List Char} (h : IsDigits ds) : WritesFraction ds ('.' :: ds)

/-- The written forms of an exponent. -/
inductive WritesExponent : Option Int → List Char → Prop
  | absent : WritesExponent none []
  | plain {mark : Char} {ds : List Char} (hmark : mark = 'e' ∨ mark = 'E') (h : IsDigits ds) :
      WritesExponent (some (digitsValue ds)) (mark :: ds)
  | plus {mark : Char} {ds : List Char} (hmark : mark = 'e' ∨ mark = 'E') (h : IsDigits ds) :
      WritesExponent (some (digitsValue ds)) (mark :: '+' :: ds)
  | minus {mark : Char} {ds : List Char} (hmark : mark = 'e' ∨ mark = 'E') (h : IsDigits ds) :
      WritesExponent (some (-digitsValue ds)) (mark :: '-' :: ds)

/-- The written forms of the whole part and what follows it; no zero stands in front of another
digit. -/
structure WritesUnsigned (l : Lexeme) (cs : List Char) : Prop where
  whole : IsDigits l.whole
  zero : l.whole.head? = some '0' → l.whole = ['0']
  parts : ∃ fs es, WritesFraction l.fraction fs ∧ WritesExponent l.exponent es ∧
    cs = l.whole ++ (fs ++ es)

/-- The written forms of a number. -/
inductive WritesNumber : Lexeme → List Char → Prop
  | positive {l : Lexeme} {cs : List Char} (hsign : l.negative = false) (h : WritesUnsigned l cs) :
      WritesNumber l cs
  | negative {l : Lexeme} {cs : List Char} (hsign : l.negative = true) (h : WritesUnsigned l cs) :
      WritesNumber l ('-' :: cs)

/-- The characters that have an escape of two characters, behind the second of them. -/
def shortEscapes : List (Char × Char) :=
  [('\x22', '\x22'), ('\\', '\\'), ('/', '/'), ('b', '\x08'), ('f', '\x0c'), ('n', '\n'),
    ('r', '\r'), ('t', '\t')]

/-- A hexadecimal digit and its value. -/
def IsHexDigit (c : Char) (n : Nat) : Prop :=
  "0123456789abcdef".toList[n]? = some c ∨ "0123456789ABCDEF".toList[n]? = some c

/-- The written forms of a part of a string. -/
inductive WritesPiece : Piece → List Char → Prop
  | raw {c : Char} (hquote : c ≠ '\x22') (hescape : c ≠ '\\') (hcontrol : 32 ≤ c.toNat) :
      WritesPiece (.char c) [c]
  | short {e c : Char} (h : (e, c) ∈ shortEscapes) : WritesPiece (.char c) ['\\', e]
  | unit {a b c d : Char} {w x y z : Nat} (ha : IsHexDigit a w) (hb : IsHexDigit b x)
      (hc : IsHexDigit c y) (hd : IsHexDigit d z) :
      WritesPiece (.unit (((w * 16 + x) * 16 + y) * 16 + z)) ['\\', 'u', a, b, c, d]

/-- The written forms of the body of a string. -/
inductive WritesPieces : List Piece → List Char → Prop
  | nil : WritesPieces [] []
  | cons {p : Piece} {ps : List Piece} {cs ds : List Char} (h : WritesPiece p cs)
      (hrest : WritesPieces ps ds) : WritesPieces (p :: ps) (cs ++ ds)

/-- The text of the pieces of a string, unless they hold half a surrogate pair. -/
def textOf? (ps : List Piece) : Option String := (joinPieces [] ps.reverse).map String.ofList

/-- The written forms of a token. -/
inductive Writes : Token → List Char → Prop
  | openBrace : Writes .openBrace ['\x7b']
  | closeBrace : Writes .closeBrace ['\x7d']
  | openBracket : Writes .openBracket ['[']
  | closeBracket : Writes .closeBracket [']']
  | comma : Writes .comma [',']
  | colon : Writes .colon [':']
  | null : Writes .null ['n', 'u', 'l', 'l']
  | yes : Writes (.bool true) ['t', 'r', 'u', 'e']
  | no : Writes (.bool false) ['f', 'a', 'l', 's', 'e']
  | number {l : Lexeme} {cs : List Char} (h : WritesNumber l cs) : Writes (.number l.number?) cs
  | string {ps : List Piece} {cs : List Char} (h : WritesPieces ps cs) :
      Writes (.string (textOf? ps)) ('\x22' :: (cs ++ ['\x22']))

/-- The texts of some tokens: blanks may stand in front of each, and at the end. -/
inductive Spells : List Token → List Char → Prop
  | nil : Spells [] []
  | blank {ts : List Token} {c : Char} {cs : List Char} (hc : isBlank c = true)
      (h : Spells ts cs) : Spells ts (c :: cs)
  | token {t : Token} {ts : List Token} {cs ds : List Char} (h : Writes t cs)
      (hrest : Spells ts ds) : Spells (t :: ts) (cs ++ ds)

/-! ### Numbers -/

/-- Characters that do not go on with a number that ends in front of them. -/
def EndsNumber (rest : List Char) : Prop :=
  ∀ c cs, rest = c :: cs → c.isDigit = false ∧ c ≠ '.' ∧ c ≠ 'e' ∧ c ≠ 'E'

/-- Characters that do not go on with a row of digits. -/
def EndsDigits (rest : List Char) : Prop := ∀ c cs, rest = c :: cs → c.isDigit = false

section Number

variable {rest fs es ds : List Char} {l : Lexeme}

theorem EndsNumber.endsDigits (h : EndsNumber rest) : EndsDigits rest :=
  fun c cs hrest => (h c cs hrest).1

theorem span_digits (hds : ∀ d ∈ ds, d.isDigit = true) (hrest : EndsDigits rest) :
    (ds ++ rest).span Char.isDigit = (ds, rest) := by
  have htake : rest.takeWhile Char.isDigit = [] := by
    cases rest with
    | nil => rfl
    | cons c cs => rw [List.takeWhile_cons, hrest c cs rfl]; rfl
  have hdrop : rest.dropWhile Char.isDigit = rest := by
    cases rest with
    | nil => rfl
    | cons c cs => rw [List.dropWhile_cons, hrest c cs rfl]; rfl
  rw [List.span_eq_takeWhile_dropWhile, List.takeWhile_append_of_pos hds,
    List.dropWhile_append_of_pos hds, htake, hdrop, List.append_nil]

/-- A digit is none of the other characters that can follow one in a number. -/
theorem IsDigits.head (h : IsDigits ds) : ∃ d tail, ds = d :: tail ∧ d.isDigit = true := by
  obtain ⟨d, tail, rfl⟩ := List.exists_cons_of_ne_nil h.ne_nil
  exact ⟨d, tail, rfl, h.digits d List.mem_cons_self⟩

theorem ne_of_isDigit {d c : Char} (hd : d.isDigit = true) (hc : c.isDigit = false) : d ≠ c := by
  rintro rfl
  rw [hd] at hc
  cases hc

theorem scanExponent_marked {mark : Char} (hmark : mark = 'e' ∨ mark = 'E') (hds : IsDigits ds)
    (hrest : EndsDigits rest) {sign : List Char} (hsign : sign = [] ∨ sign = ['+'] ∨ sign = ['-']) :
    scanExponent l (mark :: (sign ++ (ds ++ rest))) = some ({ l with
      exponent := some (if sign = ['-'] then -digitsValue ds else digitsValue ds) }, rest) := by
  have hspan := span_digits hds.digits hrest
  unfold scanExponent
  dsimp only
  rw [if_pos hmark]
  rcases hsign with rfl | rfl | rfl
  · obtain ⟨d, tail, rfl, hd⟩ := hds.head
    have hplus : d ≠ '+' := ne_of_isDigit hd rfl
    have hminus : d ≠ '-' := ne_of_isDigit hd rfl
    rw [List.nil_append, List.cons_append] at *
    split
    · rename_i heq
      exact absurd (List.cons.inj heq).1 hplus
    · rename_i heq
      exact absurd (List.cons.inj heq).1 hminus
    · rw [hspan]
      rfl
  · simp only [List.cons_append, List.nil_append, hspan, if_neg hds.ne_nil]
    rfl
  · simp only [List.cons_append, List.nil_append, hspan, if_neg hds.ne_nil]
    rfl

theorem scanExponent_append {exponent : Option Int} (h : WritesExponent exponent es)
    (hl : l.exponent = none) (hrest : EndsNumber rest) :
    scanExponent l (es ++ rest) = some ({ l with exponent }, rest) := by
  cases h with
  | absent =>
    have hsame : { l with exponent := none } = l := by rw [← hl]
    rw [List.nil_append, hsame]
    cases rest with
    | nil => rfl
    | cons c cs =>
      obtain ⟨-, -, he, hE⟩ := hrest c cs rfl
      unfold scanExponent
      dsimp only
      rw [if_neg (not_or.2 ⟨he, hE⟩)]
  | plain hmark hds =>
    exact scanExponent_marked hmark hds hrest.endsDigits (.inl rfl)
  | plus hmark hds =>
    exact scanExponent_marked hmark hds hrest.endsDigits (.inr (.inl rfl))
  | minus hmark hds =>
    exact scanExponent_marked hmark hds hrest.endsDigits (.inr (.inr rfl))

/-- What follows the whole part of a number does not go on with its digits, and neither does what
follows its fraction. -/
theorem endsDigits_exponent {exponent : Option Int} (h : WritesExponent exponent es)
    (hrest : EndsNumber rest) : EndsDigits (es ++ rest) ∧ ∀ cs, es ++ rest ≠ '.' :: cs := by
  have hmarked {mark : Char} (hmark : mark = 'e' ∨ mark = 'E') (tail : List Char) :
      EndsDigits (mark :: tail) ∧ ∀ cs, mark :: tail ≠ '.' :: cs := by
    refine ⟨?_, ?_⟩
    · rintro c cs heq
      cases heq
      rcases hmark with rfl | rfl <;> rfl
    · rintro cs heq
      cases heq
      rcases hmark with h | h <;> exact absurd h (by decide)
  cases h with
  | absent => exact ⟨hrest.endsDigits, fun cs hcs => (hrest _ _ hcs).2.1 rfl⟩
  | plain hmark => exact hmarked hmark _
  | plus hmark => exact hmarked hmark _
  | minus hmark => exact hmarked hmark _

theorem scanFraction_append {fraction : List Char} {exponent : Option Int}
    (hf : WritesFraction fraction fs) (he : WritesExponent exponent es) (hl : l.fraction = [])
    (hl' : l.exponent = none) (hrest : EndsNumber rest) :
    scanFraction l (fs ++ (es ++ rest)) = some ({ l with fraction, exponent }, rest) := by
  obtain ⟨hdigits, hpoint⟩ := endsDigits_exponent he hrest
  cases hf with
  | absent =>
    have hsame : { l with fraction := [], exponent } = { l with exponent } := by rw [← hl]
    rw [List.nil_append, hsame, ← scanExponent_append he hl' hrest]
    unfold scanFraction
    split
    · rename_i heq
      exact absurd heq (hpoint _)
    · rfl
  | digits hds =>
    rw [List.cons_append, scanFraction, span_digits hds.digits hdigits]
    exact (if_neg hds.ne_nil).trans (scanExponent_append (l := { l with fraction }) he hl' hrest)

/-- **A number is found in front of what does not go on with it.** -/
theorem scanNumber_append {cs : List Char} (h : WritesUnsigned l cs) (hrest : EndsNumber rest) :
    scanNumber l.negative (cs ++ rest) = some (l, rest) := by
  obtain ⟨fs, es, hf, he, rfl⟩ := h.parts
  obtain ⟨negative, whole, fraction, exponent⟩ := l
  -- the whole part ends in front of the point, the mark of the exponent, or the end of the number
  have hends : EndsDigits (fs ++ (es ++ rest)) := by
    cases hf with
    | absent => exact (endsDigits_exponent he hrest).1
    | digits =>
      rintro c cs heq
      cases heq
      rfl
  have hspan := span_digits h.whole.digits hends
  rw [List.append_assoc, List.append_assoc]
  unfold scanNumber
  rw [hspan]
  split
  · rename_i heq
    cases heq
    exact absurd rfl h.whole.ne_nil
  · rename_i heq
    cases heq
    cases h.zero rfl
  · rename_i heq
    cases heq
    exact scanFraction_append hf he rfl rfl hrest

end Number

/-! ### Whole numbers -/

theorem le_digits (ds : List Char) (n : Nat) :
    n ≤ ds.foldl (fun n d => n * 10 + digitValue d) n := by
  induction ds generalizing n with
  | nil => exact Nat.le_refl n
  | cons d ds ih => exact Nat.le_trans (by omega) (ih (n * 10 + digitValue d))

/-- Digits that denote a number of 64 bits all fit. -/
theorem fitDigits_eq {ds : List Char} {n : Nat}
    (h : ds.foldl (fun n d => n * 10 + digitValue d) n < UInt64.size) :
    fitDigits n ds = (ds.foldl (fun n d => n * 10 + digitValue d) n, []) := by
  induction ds generalizing n with
  | nil => rfl
  | cons d ds ih =>
    have hnext : n * 10 + digitValue d < UInt64.size :=
      Nat.lt_of_le_of_lt (le_digits ds _) h
    rw [fitDigits]
    exact (if_pos hnext).trans (ih h)

/-- What a lexeme without fraction and exponent denotes. -/
def Lexeme.wholeValue (l : Lexeme) : Int :=
  if l.negative then -digitsValue l.whole else digitsValue l.whole

/-- A lexeme that denotes this whole number. The negative zero of `-0` is none. -/
structure Lexeme.IsWhole (l : Lexeme) (n : Int) : Prop where
  fraction : l.fraction = []
  exponent : l.exponent = none
  value : l.wholeValue = n
  nonzero : l.negative = true → n ≠ 0

/-- **A whole number of 64 bits is read exactly.** -/
theorem Lexeme.number?_of_whole {l : Lexeme} {n : Int} (h : l.IsWhole n)
    (hn : Word.signedLeast ≤ n ∧ n < Word.unsignedBound) :
    l.number? = some (.integer ⟨n, hn⟩) := by
  obtain ⟨hfraction, hexponent, hvalue, hnonzero⟩ := h
  have hvalue' : (if l.negative = true then -(digitsValue l.whole : Int) else
      digitsValue l.whole) = n := hvalue
  have hsize : digitsValue l.whole < UInt64.size := by
    obtain ⟨hleast, hbound⟩ := hn
    unfold Word.signedLeast at hleast
    unfold Word.unsignedBound at hbound
    have hword : UInt64.size = 18446744073709551616 := rfl
    split at hvalue' <;> omega
  have hzero : ¬ (l.negative = true ∧ digitsValue l.whole = 0) := by
    rintro ⟨hnegative, hzero⟩
    rw [if_pos hnegative, hzero] at hvalue'
    exact hnonzero hnegative hvalue'.symm
  have hfits : fitDigits 0 l.whole = (digitsValue l.whole, []) := fitDigits_eq hsize
  have hword : WideInt.ofInt? n = some ⟨n, hn⟩ := dif_pos hn
  unfold Lexeme.number?
  rw [if_pos ⟨hfraction, hexponent⟩, hfits]
  dsimp only
  rw [hvalue', hword]
  exact if_neg hzero

/-! ### Strings -/

theorem hexValue?_eq {c : Char} {n : Nat} (h : IsHexDigit c n) : hexValue? c = some n := by
  have hlower : ∀ i : Fin 16, hexValue? ("0123456789abcdef".toList[i]) = some i.val := by decide
  have hupper : ∀ i : Fin 16, hexValue? ("0123456789ABCDEF".toList[i]) = some i.val := by decide
  rcases h with h | h
  · obtain ⟨hn, rfl⟩ := List.getElem?_eq_some_iff.1 h
    exact hlower ⟨n, hn⟩
  · obtain ⟨hn, rfl⟩ := List.getElem?_eq_some_iff.1 h
    exact hupper ⟨n, hn⟩

theorem shortEscape?_eq {e c : Char} (h : (e, c) ∈ shortEscapes) :
    shortEscape? e = some c ∧ e ≠ 'u' := by
  have hall : ∀ p ∈ shortEscapes, shortEscape? p.1 = some p.2 ∧ p.1 ≠ 'u' := by decide
  exact hall (e, c) h

/-- A part of a string is found. -/
theorem scanString_piece {p : Piece} {cs : List Char} (h : WritesPiece p cs) (acc : List Piece)
    (rest : List Char) : scanString acc (cs ++ rest) = scanString (p :: acc) rest := by
  cases h with
  | raw hquote hescape hcontrol =>
    rw [List.singleton_append, scanString, if_neg hquote,
      if_neg (not_or.2 ⟨hescape, Nat.not_lt.2 hcontrol⟩)]
    · exact fun _ _ _ _ _ heq _ => hescape heq
    · exact fun _ _ heq _ => hescape heq
  | short h =>
    obtain ⟨hvalue, hu⟩ := shortEscape?_eq h
    rw [List.cons_append, List.singleton_append, scanString, hvalue]
    exact fun _ _ _ _ _ heq _ => hu heq
  | unit ha hb hc hd =>
    rw [List.cons_append, List.cons_append, List.cons_append, List.cons_append, List.cons_append,
      List.cons_append, List.nil_append, scanString]
    rw [unit?, hexValue?_eq ha, hexValue?_eq hb, hexValue?_eq hc, hexValue?_eq hd]
    rfl

/-- **The pieces of a string are found**, up to its closing quotation mark. -/
theorem scanString_append {ps : List Piece} {cs : List Char} (h : WritesPieces ps cs)
    (acc : List Piece) (rest : List Char) :
    scanString acc (cs ++ '\x22' :: rest) = some (ps.reverse ++ acc, rest) := by
  induction h generalizing acc with
  | nil =>
    rw [List.nil_append, scanString, if_pos rfl]
    · rfl
    · exact fun _ _ _ _ _ heq _ => absurd heq (by decide)
    · exact fun _ _ heq _ => absurd heq (by decide)
  | cons h _ ih =>
    rw [List.append_assoc, scanString_piece h, ih, List.reverse_cons, List.append_assoc]
    rfl

/-- A text as the pieces of a string, none of which is an escape. -/
def plain (s : String) : List Piece := s.toList.map .char

theorem joinPieces_chars (cs after : List Char) :
    joinPieces after (cs.map .char) = some (cs.reverse ++ after) := by
  induction cs generalizing after with
  | nil => rfl
  | cons c cs ih => rw [List.map_cons, joinPieces, ih, List.reverse_cons, List.append_assoc]; rfl

@[simp] theorem textOf?_plain (s : String) : textOf? (plain s) = some s := by
  rw [textOf?, plain, ← List.map_reverse, joinPieces_chars, List.reverse_reverse, List.append_nil]
  exact congrArg some s.ofList_toList

theorem writesPieces_plain {cs : List Char}
    (h : ∀ c ∈ cs, c ≠ '\x22' ∧ c ≠ '\\' ∧ 32 ≤ c.toNat) : WritesPieces (cs.map .char) cs := by
  induction cs with
  | nil => exact .nil
  | cons c cs ih =>
    obtain ⟨hquote, hescape, hcontrol⟩ := h c List.mem_cons_self
    exact .cons (.raw hquote hescape hcontrol) (ih fun d hd => h d (List.mem_cons_of_mem _ hd))

/-! ### One token -/

/-- Tokens that are numbers. -/
def Token.isNumber : Token → Bool
  | .number _ => true
  | _ => false

theorem scanToken_string {ps : List Piece} {cs : List Char} (h : WritesPieces ps cs)
    (rest : List Char) :
    scanToken '\x22' (cs ++ '\x22' :: rest) = (.string (textOf? ps), rest) := by
  have hscan := scanString_append h [] rest
  rw [List.append_nil] at hscan
  unfold scanToken
  rw [hscan]
  rfl

theorem scanToken_negative {l : Lexeme} {cs rest : List Char} (hsign : l.negative = true)
    (h : WritesUnsigned l cs) (hrest : EndsNumber rest) :
    scanToken '-' (cs ++ rest) = (.number l.number?, rest) := by
  have hscan := scanNumber_append h hrest
  rw [hsign] at hscan
  unfold scanToken
  rw [hscan]
  rfl

/-- A number without a sign begins with a digit. -/
theorem WritesUnsigned.head {l : Lexeme} {cs : List Char} (h : WritesUnsigned l cs) :
    ∃ d tail, cs = d :: tail ∧ d.isDigit = true := by
  obtain ⟨fs, es, -, -, rfl⟩ := h.parts
  obtain ⟨d, tail, hwhole, hd⟩ := h.whole.head
  rw [hwhole]
  exact ⟨d, _, rfl, hd⟩

theorem isBlank_of_isDigit {d : Char} (hd : d.isDigit = true) : isBlank d = false := by
  have hne {c : Char} (hc : c.isDigit = false) : decide (d = c) = false :=
    decide_eq_false (ne_of_isDigit hd hc)
  rw [isBlank, hne rfl, hne rfl, hne rfl, hne rfl]
  rfl

theorem scanToken_digit {l : Lexeme} {c : Char} {cs rest : List Char} (hsign : l.negative = false)
    (h : WritesUnsigned l (c :: cs)) (hrest : EndsNumber rest) :
    scanToken c (cs ++ rest) = (.number l.number?, rest) := by
  have hscan := scanNumber_append h hrest
  rw [hsign] at hscan
  have hc : c.isDigit = true := by
    obtain ⟨d, tail, heq, hd⟩ := h.head
    cases heq
    exact hd
  have hne {d : Char} (hd : d.isDigit = false) : c ≠ d := ne_of_isDigit hc hd
  unfold scanToken
  rw [if_neg (hne rfl), if_neg (hne rfl), if_neg (hne rfl), if_neg (hne rfl), if_neg (hne rfl),
    if_neg (hne rfl), if_neg (hne rfl), if_neg (hne rfl), if_pos hc]
  rw [List.cons_append] at hscan
  rw [hscan]

/-- **A token is found** in front of what does not go on with it. -/
theorem scanToken_append {t : Token} {cs rest : List Char} (h : Writes t cs)
    (hrest : t.isNumber = true → EndsNumber rest) : ∃ c tail, cs = c :: tail ∧
      isBlank c = false ∧ t ≠ .invalid ∧ scanToken c (tail ++ rest) = (t, rest) := by
  cases h with
  | number h =>
    cases h with
    | positive hsign h =>
      obtain ⟨d, tail, rfl, hd⟩ := h.head
      exact ⟨d, tail, rfl, isBlank_of_isDigit hd, nofun, scanToken_digit hsign h (hrest rfl)⟩
    | negative hsign h =>
      exact ⟨'-', _, rfl, rfl, nofun, scanToken_negative hsign h (hrest rfl)⟩
  | string h =>
    refine ⟨'\x22', _, rfl, rfl, nofun, ?_⟩
    rw [List.append_assoc]
    exact scanToken_string h rest
  | _ => exact ⟨_, _, rfl, rfl, nofun, rfl⟩

/-! ### All tokens -/

/-- No two numbers next to each other. -/
def Apart : List Token → Prop
  | t :: u :: ts => (t.isNumber = true → u.isNumber = false) ∧ Apart (u :: ts)
  | _ => True

/-- A number ends in front of a token that is none. -/
theorem Writes.endsNumber {t : Token} {cs : List Char} (h : Writes t cs)
    (ht : t.isNumber = false) (rest : List Char) : EndsNumber (cs ++ rest) := by
  rintro c tail heq
  cases h with
  | number => cases ht
  | _ =>
    cases heq
    decide

/-- A number ends in front of blanks, and at the end of the text. -/
theorem Spells.endsNumber {ts : List Token} {cs : List Char} (h : Spells ts cs)
    (hts : ∀ t rest, ts = t :: rest → t.isNumber = false) : EndsNumber cs := by
  induction h with
  | nil => exact fun _ _ heq => nomatch heq
  | blank hc _ _ =>
    rintro c tail heq
    cases heq
    simp only [isBlank, Bool.or_eq_true, decide_eq_true_eq] at hc
    rcases hc with ((rfl | rfl) | rfl) | rfl <;> decide
  | token h _ _ => exact h.endsNumber (hts _ _ rfl) _

theorem scanTokens_of_spells {ts : List Token} {cs : List Char} (h : Spells ts cs) (hts : Apart ts)
    (fuel : Nat) (hfuel : cs.length ≤ fuel) (acc : List Token) :
    scanTokens fuel acc cs = ts.reverse ++ acc := by
  induction h generalizing fuel acc with
  | nil => cases fuel <;> rfl
  | blank hc _ ih =>
    cases fuel with
    | zero => cases hfuel
    | succ fuel =>
      rw [scanTokens, if_pos hc]
      exact ih hts fuel (Nat.le_of_succ_le_succ hfuel) acc
  | token h hrest ih =>
    rename_i t ts cs ds
    -- behind a number stands a blank, a token that is none, or nothing
    have hnext : t.isNumber = true → EndsNumber ds := by
      intro ht
      refine hrest.endsNumber ?_
      rintro u rest rfl
      exact hts.1 ht
    have hts' : Apart ts := by
      cases ts with
      | nil => trivial
      | cons => exact hts.2
    obtain ⟨c, tail, rfl, hc, ht, hscan⟩ := scanToken_append h hnext
    rw [List.cons_append] at hfuel ⊢
    cases fuel with
    | zero => cases hfuel
    | succ fuel =>
      have hlength : ds.length ≤ fuel := by
        rw [List.length_cons, List.length_append] at hfuel
        omega
      rw [scanTokens, if_neg (by rw [hc]; exact Bool.false_ne_true), hscan, List.reverse_cons,
        List.append_assoc]
      split
      · rename_i heq
        cases heq
        exact absurd rfl ht
      · rename_i heq
        cases heq
        exact ih hts' fuel hlength _

/-- **The tokens of a text are those that it spells.** -/
theorem tokens_of_spells {ts : List Token} {s : String} (h : Spells ts s.toList) (hts : Apart ts) :
    tokens s = ts := by
  rw [tokens, scanTokens_of_spells h hts _ (Nat.le_refl _), List.append_nil, List.reverse_reverse]

end PrintClient.Json
