import Mathlib.Tactic.SplitIfs
import PrintClient.Proofs.Json.Documents
import PrintClient.Proofs.Json.Numerals

/-!
# What is written is read back

The compact text of a value is the text of a syntax tree, written without blanks between its tokens.
So no control character stands in it, and it is read back as the value, if the value keeps its
objects in key order and its fractions are printed so that they read back.

* `Writes.not_control`, `Joined`: tokens with nothing between them;
* `writes_string`: strings;
* `parts`, `IsOrdered`, `ReadsBack`: what a value has to keep;
* `PrintedAs`, `exists_doc`: the tree of a value;
* `parse_compact_object`, `parse_compact`: what is read.
-/

namespace PrintClient.Json

/-! ### Tokens with nothing between them -/

/-- A text of tokens without blanks. -/
inductive Joined : List Token → List Char → Prop
  | nil : Joined [] []
  | cons {t : Token} {ts : List Token} {cs ds : List Char} (h : Writes t cs)
      (hrest : Joined ts ds) : Joined (t :: ts) (cs ++ ds)

namespace Joined

variable {t : Token} {ts us : List Token} {cs ds : List Char}

theorem spells (h : Joined ts cs) : Spells ts cs := by
  induction h with
  | nil => exact .nil
  | cons h _ ih => exact .token h ih

theorem append (h : Joined ts cs) (hus : Joined us ds) : Joined (ts ++ us) (cs ++ ds) := by
  induction h with
  | nil => exact hus
  | cons h _ ih =>
    rw [List.append_assoc]
    exact .cons h ih

/-- A token of one character in front. -/
theorem mark {c : Char} (h : Writes t [c]) (hrest : Joined ts cs) : Joined (t :: ts) (c :: cs) :=
  .cons h hrest

theorem single (h : Writes t cs) : Joined [t] cs := by
  have hjoined : Joined [t] (cs ++ []) := .cons h .nil
  rwa [List.append_nil] at hjoined

end Joined

/-! ### No control characters -/

section Controls

variable {c : Char} {cs : List Char}

theorem not_control_of_isDigit (h : c.isDigit = true) : 32 ≤ c.toNat := by
  have hle : '0'.toNat ≤ c.toNat := by
    simp only [Char.isDigit, Bool.and_eq_true, decide_eq_true_eq] at h
    exact h.1
  exact Nat.le_trans (by decide) hle

theorem IsDigits.not_control {ds : List Char} (h : IsDigits ds) : ∀ c ∈ ds, 32 ≤ c.toNat :=
  fun c hc => not_control_of_isDigit (h.digits c hc)

theorem WritesFraction.not_control {fraction : List Char} (h : WritesFraction fraction cs) :
    ∀ c ∈ cs, 32 ≤ c.toNat := by
  cases h with
  | absent => exact fun _ hc => absurd hc List.not_mem_nil
  | digits hds => exact List.forall_mem_cons.2 ⟨by decide, hds.not_control⟩

theorem WritesExponent.not_control {exponent : Option Int} (h : WritesExponent exponent cs) :
    ∀ c ∈ cs, 32 ≤ c.toNat := by
  have hmarked {mark : Char} (hmark : mark = 'e' ∨ mark = 'E') : 32 ≤ mark.toNat := by
    rcases hmark with rfl | rfl <;> decide
  cases h with
  | absent => exact fun _ hc => absurd hc List.not_mem_nil
  | plain hmark hds => exact List.forall_mem_cons.2 ⟨hmarked hmark, hds.not_control⟩
  | plus hmark hds | minus hmark hds =>
    exact List.forall_mem_cons.2 ⟨hmarked hmark,
      List.forall_mem_cons.2 ⟨by decide, hds.not_control⟩⟩

theorem WritesUnsigned.not_control {l : Lexeme} (h : WritesUnsigned l cs) :
    ∀ c ∈ cs, 32 ≤ c.toNat := by
  obtain ⟨fs, es, hf, he, rfl⟩ := h.parts
  exact List.forall_mem_append.2 ⟨h.whole.not_control,
    List.forall_mem_append.2 ⟨hf.not_control, he.not_control⟩⟩

theorem WritesPiece.not_control {p : Piece} (h : WritesPiece p cs) : ∀ c ∈ cs, 32 ≤ c.toNat := by
  have hhex {c : Char} {n : Nat} (h : IsHexDigit c n) : 32 ≤ c.toNat := by
    have hlower : ∀ i : Fin 16, 32 ≤ ("0123456789abcdef".toList[i]).toNat := by decide
    have hupper : ∀ i : Fin 16, 32 ≤ ("0123456789ABCDEF".toList[i]).toNat := by decide
    rcases h with h | h
    · obtain ⟨hn, rfl⟩ := List.getElem?_eq_some_iff.1 h
      exact hlower ⟨n, hn⟩
    · obtain ⟨hn, rfl⟩ := List.getElem?_eq_some_iff.1 h
      exact hupper ⟨n, hn⟩
  cases h with
  | raw _ _ hcontrol => exact fun d hd => List.mem_singleton.1 hd ▸ hcontrol
  | short h =>
    have hall : ∀ p ∈ shortEscapes, 32 ≤ p.1.toNat := by decide
    exact List.forall_mem_cons.2 ⟨by decide, List.forall_mem_singleton.2 (hall _ h)⟩
  | unit ha hb hc hd =>
    simp only [List.forall_mem_cons]
    exact ⟨by decide, by decide, hhex ha, hhex hb, hhex hc, hhex hd,
      fun _ hc => absurd hc List.not_mem_nil⟩

theorem WritesPieces.not_control {ps : List Piece} (h : WritesPieces ps cs) :
    ∀ c ∈ cs, 32 ≤ c.toNat := by
  induction h with
  | nil => exact fun _ hc => absurd hc List.not_mem_nil
  | cons h _ ih => exact List.forall_mem_append.2 ⟨h.not_control, ih⟩

/-- **No control character stands in a token.** -/
theorem Writes.not_control {t : Token} (h : Writes t cs) : ∀ c ∈ cs, 32 ≤ c.toNat := by
  cases h with
  | number h =>
    cases h with
    | positive _ h => exact h.not_control
    | negative _ h => exact List.forall_mem_cons.2 ⟨by decide, h.not_control⟩
  | string h =>
    exact List.forall_mem_cons.2 ⟨by decide, List.forall_mem_append.2 ⟨h.not_control,
      List.forall_mem_singleton.2 (by decide)⟩⟩
  | _ => simp

theorem Joined.not_control {ts : List Token} (h : Joined ts cs) : ∀ c ∈ cs, 32 ≤ c.toNat := by
  induction h with
  | nil => exact fun _ hc => absurd hc List.not_mem_nil
  | cons h _ ih => exact List.forall_mem_append.2 ⟨h.not_control, ih⟩

end Controls

/-! ### Strings -/

/-- How a character is written in a string: control characters without a short escape by number. -/
def pieceOf (c : Char) : Piece :=
  if c.toNat < 32 ∧ c ∉ ['\x08', '\x0c', '\n', '\r', '\t'] then .unit c.toNat else .char c

/-- The hexadecimal digit of a number below sixteen. -/
theorem isHexDigit_hexDigit {n : Nat} (h : n < 16) : IsHexDigit (hexDigit n) n := by
  have hall : ∀ i : Fin 16, "0123456789abcdef".toList[i] = hexDigit i.val := by decide
  exact .inl (List.getElem?_eq_some_iff.2 ⟨h, hall ⟨n, h⟩⟩)

theorem writesPiece_escapeChar (c : Char) : WritesPiece (pieceOf c) (escapeChar c) := by
  have hshort {e d : Char} (h : (e, d) ∈ shortEscapes) (hd : pieceOf d = .char d) :
      WritesPiece (pieceOf d) ['\\', e] := hd ▸ .short h
  unfold escapeChar
  split_ifs with hquote hback hform hline hreturn htab hcontrol
  · rcases hquote with rfl | rfl
    · exact hshort (by decide) (by decide)
    · exact hshort (by decide) (by decide)
  · subst hback
    exact hshort (by decide) (by decide)
  · subst hform
    exact hshort (by decide) (by decide)
  · subst hline
    exact hshort (by decide) (by decide)
  · subst hreturn
    exact hshort (by decide) (by decide)
  · subst htab
    exact hshort (by decide) (by decide)
  · have hpiece : pieceOf c = .unit (((0 * 16 + 0) * 16 + c.toNat / 16) * 16 + c.toNat % 16) := by
      have hlong : c ∉ ['\x08', '\x0c', '\n', '\r', '\t'] := by
        simp [hback, hform, hline, hreturn, htab]
      rw [pieceOf, if_pos ⟨hcontrol, hlong⟩]
      congr 1
      omega
    rw [hpiece]
    exact .unit (.inl rfl) (.inl rfl) (isHexDigit_hexDigit (by omega))
      (isHexDigit_hexDigit (by omega))
  · rw [pieceOf, if_neg fun h => hcontrol h.1]
    exact .raw (fun h => hquote (.inl h)) (fun h => hquote (.inr h)) (Nat.not_lt.1 hcontrol)

theorem writesPieces_flatMap (cs : List Char) :
    WritesPieces (cs.map pieceOf) (cs.flatMap escapeChar) := by
  induction cs with
  | nil => exact .nil
  | cons c cs ih => exact .cons (writesPiece_escapeChar c) ih

theorem joinPieces_pieceOf (cs after : List Char) :
    joinPieces after (cs.map pieceOf) = some (cs.reverse ++ after) := by
  induction cs generalizing after with
  | nil => rfl
  | cons c cs ih =>
    have hjoin : joinPieces after (pieceOf c :: cs.map pieceOf) =
        joinPieces (c :: after) (cs.map pieceOf) := by
      by_cases h : c.toNat < 32 ∧ c ∉ ['\x08', '\x0c', '\n', '\r', '\t']
      · rw [pieceOf, if_pos h, joinPieces.eq_def]
        dsimp only
        rw [if_neg (by omega), if_neg (by omega), Char.ofNat_toNat]
      · rw [pieceOf, if_neg h, joinPieces]
    rw [List.map_cons, hjoin, ih, List.reverse_cons, List.append_assoc]
    rfl

theorem textOf?_pieceOf (s : String) : textOf? (s.toList.map pieceOf) = some s := by
  rw [textOf?, ← List.map_reverse, joinPieces_pieceOf, List.reverse_reverse, List.append_nil]
  exact congrArg some s.ofList_toList

/-- **A string is written as a string that stands for it.** -/
theorem writes_string (s : String) :
    Writes (.string (textOf? (s.toList.map pieceOf))) (stringChars s) :=
  .string (writesPieces_flatMap s.toList)

/-! ### What a value has to keep -/

mutual
/-- A value and all values inside it. -/
def parts : Json → List Json
  | .array items => .array items :: itemParts items
  | .object members => .object members :: memberParts members
  | v => [v]

/-- The items of a list and all values inside them. -/
def itemParts : List Json → List Json
  | [] => []
  | v :: vs => v.parts ++ itemParts vs

/-- The values of members and all values inside them. -/
def memberParts : List (String × Json) → List Json
  | [] => []
  | (_, v) :: ms => v.parts ++ memberParts ms
end

mutual
/-- How deep lists and objects nest. -/
def depth : Json → Nat
  | .array items => itemDepth items + 1
  | .object members => memberDepth members + 1
  | _ => 0

/-- How deep the deepest item nests. -/
def itemDepth : List Json → Nat
  | [] => 0
  | v :: vs => max v.depth (itemDepth vs)

/-- How deep the deepest member nests. -/
def memberDepth : List (String × Json) → Nat
  | [] => 0
  | (_, v) :: ms => max v.depth (memberDepth ms)
end

theorem mem_memberParts {w : Json} {ms : List (String × Json)} :
    w ∈ memberParts ms ↔ ∃ m ∈ ms, w ∈ m.2.parts := by
  induction ms with
  | nil => simp [memberParts]
  | cons m ms ih =>
    obtain ⟨k, v⟩ := m
    rw [memberParts, List.mem_append, ih]
    simp

/-- All objects of a value hold their members in key order. -/
def IsOrdered (v : Json) : Prop := ∀ members, .object members ∈ v.parts → Dict.Sorted members

theorem isOrdered_object {members : Dict Json} : (Json.object members).IsOrdered ↔
    Dict.Sorted members ∧ ∀ m ∈ members, m.2.IsOrdered := by
  have hparts : ∀ w, w ∈ (Json.object members).parts ↔
      w = .object members ∨ ∃ m ∈ members, w ∈ m.2.parts := fun w => by
    rw [parts, List.mem_cons, mem_memberParts]
  refine ⟨fun h => ⟨h members ((hparts _).2 (.inl rfl)), fun m hm inner hinner =>
    h inner ((hparts _).2 (.inr ⟨m, hm, hinner⟩))⟩, ?_⟩
  rintro ⟨hsorted, hinner⟩ inner h
  rcases (hparts _).1 h with heq | ⟨m, hm, hin⟩
  · cases heq
    exact hsorted
  · exact hinner m hm inner hin

/-- A fraction is printed so that it reads back equal. -/
def ReadsBack (x : Binary64) : Prop :=
  parse (compact (.number (.real x))) = .ok (.number (.real x))

instance (x : Binary64) : Decidable (ReadsBack x) := inferInstanceAs (Decidable (_ = _))

/-- What the text of a value keeps only on a condition, apart from the values inside it. -/
def IsKept : Json → Prop
  | .number (.real x) => ReadsBack x
  | .object members => Dict.Sorted members
  | _ => True

/-! ### The tree of a value -/

/-- A tree whose text is that of a value. -/
structure PrintedAs (d : Doc) (v : Json) : Prop where
  text : Joined d.tokens (compactChars v)
  depth : d.depth = v.depth
  value : (∀ w ∈ v.parts, w.IsKept) → d.value? = some v

/-- Trees whose texts are those of further items, after the first comma. -/
structure ItemsPrintedAs (ds : List Doc) (vs : List Json) : Prop where
  text : ∃ cs, compactItems vs = ',' :: cs ∧ Joined (Doc.itemTokens ds) (cs ++ [']'])
  depth : Doc.itemDepth ds = itemDepth vs
  value : (∀ w ∈ itemParts vs, w.IsKept) → Doc.values? ds = some vs

/-- Trees whose texts are those of further members, after the first comma. -/
structure MembersPrintedAs (ds : List (List Piece × Doc)) (ms : List (String × Json)) : Prop where
  text : ∃ cs, compactMembers ms = ',' :: cs ∧ Joined (Doc.memberTokens ds) (cs ++ ['\x7d'])
  depth : Doc.memberDepth ds = memberDepth ms
  value : (∀ w ∈ memberParts ms, w.IsKept) → Doc.memberValues? ds = some ms

section Trees

variable {d : Doc} {ds : List Doc} {v : Json} {vs : List Json}
  {es : List (List Piece × Doc)} {ms : List (String × Json)}

theorem PrintedAs.isText (h : PrintedAs d v) : d.IsText (compact v) := by
  rw [Doc.IsText, compact, String.toList_ofList]
  exact h.text.spells

/-- A fraction that reads back is the value of what is written for it. -/
theorem printedAs_real (x : Binary64) : ∃ d, PrintedAs d (.number (.real x)) := by
  obtain ⟨l, hl⟩ := writes_real x
  have htext : Joined (Doc.number l).tokens (compactChars (.number (.real x))) :=
    .single (.number hl)
  refine ⟨.number l, htext, rfl, fun hkept => ?_⟩
  have hback : ReadsBack x := hkept _ List.mem_cons_self
  have htokens : tokens (compact (.number (.real x))) = [.number l.number?] :=
    tokens_of_spells (by rw [compact, String.toList_ofList]; exact htext.spells) trivial
  rw [ReadsBack, parse, parseWithin, htokens] at hback
  -- what is read for one number is the value of its lexeme
  cases hnumber : l.number? with
  | none =>
    rw [hnumber] at hback
    cases hback
  | some n =>
    rw [hnumber] at hback
    cases hback
    rw [Doc.value?, hnumber]
    rfl

theorem printedAs_integer (i : WideInt) : ∃ d, PrintedAs d (.number (.integer i)) := by
  obtain ⟨l, hl, hvalue⟩ := writes_integer i
  refine ⟨.number l, .single (.number hl), rfl, fun _ => ?_⟩
  rw [Doc.value?, hvalue]
  rfl

theorem printedAs_string (s : String) : PrintedAs (.string (s.toList.map pieceOf)) (.string s) where
  text := .single (writes_string s)
  depth := rfl
  value := fun _ => by
    rw [Doc.value?, textOf?_pieceOf]
    rfl

theorem ItemsPrintedAs.array (h : ItemsPrintedAs ds (v :: vs)) :
    PrintedAs (.array ds) (.array (v :: vs)) where
  text := by
    obtain ⟨cs, hcs, htext⟩ := h.text
    rw [compactItems, List.cons.injEq] at hcs
    rw [compactChars, Doc.tokens, ← List.append_assoc, hcs.2]
    exact .mark .openBracket htext
  depth := by rw [Doc.depth, Json.depth, h.depth]
  value := fun hkept => by
    have hitems : ∀ w ∈ itemParts (v :: vs), w.IsKept := fun w hw =>
      hkept w (List.mem_cons_of_mem _ hw)
    rw [Doc.value?, h.value hitems]
    rfl

theorem MembersPrintedAs.text_object {k : String} (h : MembersPrintedAs es ((k, v) :: ms)) :
    Joined (Doc.object es).tokens (compactChars (.object ((k, v) :: ms))) := by
  obtain ⟨cs, hcs, htext⟩ := h.text
  rw [compactMembers, List.cons.injEq] at hcs
  have hchars : compactChars (.object ((k, v) :: ms)) = '\x7b' :: (cs ++ ['\x7d']) := by
    rw [compactChars, ← hcs.2]
    simp only [List.append_assoc, List.cons_append]
  rw [hchars, Doc.tokens]
  exact .mark .openBrace htext

theorem MembersPrintedAs.object {k : String} (h : MembersPrintedAs es ((k, v) :: ms)) :
    PrintedAs (.object es) (.object ((k, v) :: ms)) where
  text := h.text_object
  depth := by rw [Doc.depth, Json.depth, h.depth]
  value := fun hkept => by
    have hmembers : ∀ w ∈ memberParts ((k, v) :: ms), w.IsKept := fun w hw =>
      hkept w (List.mem_cons_of_mem _ hw)
    have hsorted : Dict.Sorted ((k, v) :: ms) := hkept _ List.mem_cons_self
    rw [Doc.value?, h.value hmembers, Option.map_some, Dict.ofList_of_sorted hsorted]

theorem PrintedAs.lastItem (h : PrintedAs d v) : ItemsPrintedAs [d] [v] where
  text := ⟨_, rfl, by
    rw [compactItems, List.append_nil, Doc.itemTokens]
    exact h.text.append (.single .closeBracket)⟩
  depth := by rw [Doc.itemDepth, itemDepth, h.depth]; rfl
  value := fun hkept => by
    rw [Doc.values?, h.value fun w hw => hkept w (List.mem_append_left _ hw)]
    rfl

theorem PrintedAs.consItem {e : Doc} (h : PrintedAs d v) (hrest : ItemsPrintedAs (e :: ds) vs) :
    ItemsPrintedAs (d :: e :: ds) (v :: vs) where
  text := by
    obtain ⟨cs, hcs, htext⟩ := hrest.text
    refine ⟨_, rfl, ?_⟩
    rw [hcs, Doc.itemTokens, List.append_assoc]
    exact h.text.append (.mark .comma htext)
  depth := by rw [Doc.itemDepth, itemDepth, h.depth, hrest.depth]
  value := fun hkept => by
    rw [Doc.values?, h.value fun w hw => hkept w (List.mem_append_left _ hw),
      hrest.value fun w hw => hkept w (List.mem_append_right _ hw)]

theorem PrintedAs.lastMember (h : PrintedAs d v) (k : String) :
    MembersPrintedAs [(k.toList.map pieceOf, d)] [(k, v)] where
  text := ⟨_, rfl, by
    rw [compactMembers, List.append_nil, Doc.memberTokens, List.append_assoc]
    exact .cons (writes_string k) (.mark .colon (h.text.append (.single .closeBrace)))⟩
  depth := by rw [Doc.memberDepth, memberDepth, h.depth]; rfl
  value := fun hkept => by
    rw [Doc.memberValues?, textOf?_pieceOf, h.value fun w hw => hkept w (List.mem_append_left _ hw)]
    rfl

theorem PrintedAs.consMember {e : List Piece × Doc} (h : PrintedAs d v) (k : String)
    (hrest : MembersPrintedAs (e :: es) ms) :
    MembersPrintedAs ((k.toList.map pieceOf, d) :: e :: es) ((k, v) :: ms) where
  text := by
    obtain ⟨cs, hcs, htext⟩ := hrest.text
    refine ⟨_, rfl, ?_⟩
    rw [hcs, Doc.memberTokens]
    simp only [List.append_assoc, List.cons_append]
    exact .cons (writes_string k) (.mark .colon (h.text.append (.mark .comma htext)))
  depth := by rw [Doc.memberDepth, memberDepth, h.depth, hrest.depth]
  value := fun hkept => by
    rw [Doc.memberValues?, textOf?_pieceOf, h.value fun w hw => hkept w (List.mem_append_left _ hw),
      hrest.value fun w hw => hkept w (List.mem_append_right _ hw)]

end Trees

mutual
/-- **The compact text of a value is the text of a tree.** -/
theorem exists_doc : ∀ v : Json, ∃ d, PrintedAs d v
  | .null => ⟨.null, .single .null, rfl, fun _ => rfl⟩
  | .bool true => ⟨.bool true, .single .yes, rfl, fun _ => rfl⟩
  | .bool false => ⟨.bool false, .single .no, rfl, fun _ => rfl⟩
  | .number (.integer i) => printedAs_integer i
  | .number (.real x) => printedAs_real x
  | .string s => ⟨_, printedAs_string s⟩
  | .array [] => ⟨.array [], .mark .openBracket (.single .closeBracket), rfl, fun _ => rfl⟩
  | .array (v :: vs) => by
    obtain ⟨d, ds, h⟩ := exists_items (v :: vs) (List.cons_ne_nil _ _)
    exact ⟨_, h.array⟩
  | .object [] => ⟨.object [], .mark .openBrace (.single .closeBrace), rfl, fun _ => rfl⟩
  | .object ((k, v) :: ms) => by
    obtain ⟨e, es, h⟩ := exists_members ((k, v) :: ms) (List.cons_ne_nil _ _)
    exact ⟨_, h.object⟩

theorem exists_items : ∀ vs : List Json, vs ≠ [] → ∃ d ds, ItemsPrintedAs (d :: ds) vs
  | [], hne => absurd rfl hne
  | [v], _ => by
    obtain ⟨d, h⟩ := exists_doc v
    exact ⟨d, [], h.lastItem⟩
  | v :: w :: vs, _ => by
    obtain ⟨d, h⟩ := exists_doc v
    obtain ⟨e, ds, hrest⟩ := exists_items (w :: vs) (List.cons_ne_nil _ _)
    exact ⟨d, e :: ds, h.consItem hrest⟩

theorem exists_members : ∀ ms : List (String × Json), ms ≠ [] →
    ∃ e es, MembersPrintedAs (e :: es) ms
  | [], hne => absurd rfl hne
  | [(k, v)], _ => by
    obtain ⟨d, h⟩ := exists_doc v
    exact ⟨_, [], h.lastMember k⟩
  | (k, v) :: m :: ms, _ => by
    obtain ⟨d, h⟩ := exists_doc v
    obtain ⟨e, es, hrest⟩ := exists_members (m :: ms) (List.cons_ne_nil _ _)
    exact ⟨_, e :: es, h.consMember k hrest⟩
end

/-! ### What is read -/

theorem not_control_compactChars (v : Json) : ∀ c ∈ compactChars v, 32 ≤ c.toNat := by
  obtain ⟨d, h⟩ := exists_doc v
  exact h.text.not_control

/-- **An object is read with the last of its members under each key**, in whatever order they are
written. -/
theorem parse_compact_object {k : String} {v : Json} {ms : List (String × Json)}
    (hkept : ∀ w ∈ memberParts ((k, v) :: ms), w.IsKept)
    (hdepth : (Json.object ((k, v) :: ms)).depth ≤ nestingLimit) :
    parse (compact (.object ((k, v) :: ms))) = .ok (.object (Dict.ofList ((k, v) :: ms))) := by
  obtain ⟨e, es, h⟩ := exists_members ((k, v) :: ms) (List.cons_ne_nil _ _)
  have hvalue : (Doc.object (e :: es)).value? = some (.object (Dict.ofList ((k, v) :: ms))) := by
    rw [Doc.value?, h.value hkept, Option.map_some]
  exact parse_of_isText h.object.isText hvalue (h.object.depth ▸ hdepth)

/-- **A value is read back from its compact text.** -/
theorem parse_compact {v : Json} (hkept : ∀ w ∈ v.parts, w.IsKept)
    (hdepth : v.depth ≤ nestingLimit) : parse (compact v) = .ok v := by
  obtain ⟨d, h⟩ := exists_doc v
  exact parse_of_isText h.isText (h.value hkept) (h.depth ▸ hdepth)

end PrintClient.Json
