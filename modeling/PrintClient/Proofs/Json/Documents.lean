import PrintClient.Json.Reader
import PrintClient.Proofs.Json.Spelling

/-!
# JSON texts are read as their values

A `Doc` is the syntax tree of a JSON text, which keeps what a value does not: the order of members,
repeated keys, and the way numbers and strings are written. The readers read every text as the value
of its tree, whatever else stands behind it.

* `Doc`, `Doc.tokens`, `Doc.IsText`: syntax trees and their texts;
* `Doc.value?`, `Doc.depth`: the value of a tree, and how deep it nests;
* `Doc.itemTokens_more`, `Doc.memberTokens_more`: one item or member, and what follows it;
* `Doc.apart_tokens`: no two numbers are next to each other;
* `Doc.readValue_tokens`, `Doc.skipValue_tokens`: what is read, and what is passed over;
* `parse_of_isText`: whole texts.
-/

namespace PrintClient.Json

/-! ### Syntax trees -/

/-- The syntax tree of a JSON text. -/
inductive Doc where
  | null
  | bool (b : Bool)
  | number (l : Lexeme)
  | string (ps : List Piece)
  | array (items : List Doc)
  | object (members : List (List Piece × Doc))

namespace Doc

mutual
/-- The tokens of a text. -/
def tokens : Doc → List Token
  | .null => [.null]
  | .bool b => [.bool b]
  | .number l => [.number l.number?]
  | .string ps => [.string (textOf? ps)]
  | .array items => .openBracket :: itemTokens items
  | .object members => .openBrace :: memberTokens members

/-- The tokens of the items of a list, with the bracket behind them. -/
def itemTokens : List Doc → List Token
  | [] => [.closeBracket]
  | [d] => d.tokens ++ [.closeBracket]
  | d :: e :: ds => d.tokens ++ .comma :: itemTokens (e :: ds)

/-- The tokens of the members of an object, with the brace behind them. -/
def memberTokens : List (List Piece × Doc) → List Token
  | [] => [.closeBrace]
  | [(key, d)] => .string (textOf? key) :: .colon :: (d.tokens ++ [.closeBrace])
  | (key, d) :: m :: ms =>
    .string (textOf? key) :: .colon :: (d.tokens ++ .comma :: memberTokens (m :: ms))
end

/-- The texts of a tree. -/
def IsText (d : Doc) (s : String) : Prop := Spells d.tokens s.toList

mutual
/-- The value of a tree, unless a number in it is too large or a string holds half a surrogate pair.
-/
def value? : Doc → Option Json
  | .null => some .null
  | .bool b => some (.bool b)
  | .number l => l.number?.map .number
  | .string ps => (textOf? ps).map .string
  | .array items => (values? items).map .array
  | .object members => (memberValues? members).map fun pairs => .object (Dict.ofList pairs)

/-- The values of items. -/
def values? : List Doc → Option (List Json)
  | [] => some []
  | d :: ds =>
    match d.value?, values? ds with
    | some v, some vs => some (v :: vs)
    | _, _ => none

/-- The keys and values of members. -/
def memberValues? : List (List Piece × Doc) → Option (List (String × Json))
  | [] => some []
  | (key, d) :: ms =>
    match textOf? key, d.value?, memberValues? ms with
    | some s, some v, some pairs => some ((s, v) :: pairs)
    | _, _, _ => none
end

mutual
/-- How deep lists and objects nest. -/
def depth : Doc → Nat
  | .array items => itemDepth items + 1
  | .object members => memberDepth members + 1
  | _ => 0

/-- How deep the deepest item nests. -/
def itemDepth : List Doc → Nat
  | [] => 0
  | d :: ds => max d.depth (itemDepth ds)

/-- How deep the deepest member nests. -/
def memberDepth : List (List Piece × Doc) → Nat
  | [] => 0
  | (_, d) :: ms => max d.depth (memberDepth ms)
end

/-! ### One token after the other -/

section Tokens

variable (key : List Piece) (d e : Doc) (ds : List Doc) (m : List Piece × Doc)
  (ms : List (List Piece × Doc)) (rest : List Token)

theorem itemTokens_last : itemTokens [d] ++ rest = d.tokens ++ .closeBracket :: rest := by
  rw [itemTokens, List.append_assoc, List.singleton_append]

theorem itemTokens_more : itemTokens (d :: e :: ds) ++ rest =
    d.tokens ++ .comma :: (itemTokens (e :: ds) ++ rest) := by
  rw [itemTokens, List.append_assoc, List.cons_append]

theorem memberTokens_last : memberTokens [(key, d)] ++ rest =
    .string (textOf? key) :: .colon :: (d.tokens ++ .closeBrace :: rest) := by
  rw [memberTokens, List.cons_append, List.cons_append, List.append_assoc, List.singleton_append]

theorem memberTokens_more : memberTokens ((key, d) :: m :: ms) ++ rest =
    .string (textOf? key) :: .colon ::
      (d.tokens ++ .comma :: (memberTokens (m :: ms) ++ rest)) := by
  rw [memberTokens, List.cons_append, List.cons_append, List.append_assoc, List.cons_append]

/-- A value does not begin with a closing bracket. -/
theorem head_tokens : ∃ t ts, d.tokens = t :: ts ∧ t ≠ .closeBracket := by
  cases d with
  | array | object => exact ⟨_, _, tokens.eq_def _, nofun⟩
  | _ => exact ⟨_, _, rfl, nofun⟩

/-- A list that is not empty is not closed before its first item. -/
theorem itemTokens_ne (r : List Token) : itemTokens (d :: ds) ++ rest ≠ .closeBracket :: r := by
  obtain ⟨t, ts, ht, hne⟩ := head_tokens d
  intro hr
  cases ds with
  | nil =>
    rw [itemTokens_last, ht] at hr
    exact hne (List.cons.inj hr).1
  | cons e ds =>
    rw [itemTokens_more, ht] at hr
    exact hne (List.cons.inj hr).1

/-- An object that is not empty is not closed before its first member. -/
theorem memberTokens_ne (r : List Token) : memberTokens (m :: ms) ++ rest ≠ .closeBrace :: r := by
  obtain ⟨key, d⟩ := m
  intro hr
  cases ms with
  | nil =>
    rw [memberTokens_last] at hr
    cases hr
  | cons m ms =>
    rw [memberTokens_more] at hr
    cases hr

theorem length_tokens_pos : 0 < d.tokens.length := by
  obtain ⟨t, ts, ht, -⟩ := head_tokens d
  rw [ht]
  exact Nat.succ_pos _

/-- A list is as long as its first item and its rest. -/
theorem length_itemTokens :
    d.tokens.length + (itemTokens ds).length ≤ (itemTokens (d :: ds)).length := by
  cases ds with
  | nil => simp [itemTokens]
  | cons e ds =>
    rw [itemTokens, List.length_append, List.length_cons]
    omega

theorem length_itemTokens_pos : 0 < (itemTokens ds).length := by
  cases ds with
  | nil => exact Nat.one_pos
  | cons d ds =>
    have hlength := length_itemTokens d ds
    have hfirst := length_tokens_pos d
    omega

/-- An object is longer than its first value and its rest. -/
theorem length_memberTokens :
    m.2.tokens.length + (memberTokens ms).length < (memberTokens (m :: ms)).length := by
  obtain ⟨key, d⟩ := m
  show d.tokens.length + _ < _
  cases ms with
  | nil => simp [memberTokens]
  | cons m ms =>
    rw [memberTokens, List.length_cons, List.length_cons, List.length_append, List.length_cons]
    omega

theorem length_memberTokens_pos : 0 < (memberTokens ms).length := by
  cases ms with
  | nil => exact Nat.one_pos
  | cons m ms => exact Nat.zero_lt_of_lt (length_memberTokens m ms)

end Tokens

/-! ### Numbers stand apart -/

theorem apart_cons {t : Token} {ts : List Token} (ht : t.isNumber = false) (h : Apart ts) :
    Apart (t :: ts) := by
  cases ts with
  | nil => trivial
  | cons u ts => exact ⟨fun hn => (Bool.false_ne_true (ht.symm.trans hn)).elim, h⟩

/-- Tokens that can stand behind a number. -/
structure Follows (ts : List Token) : Prop where
  head : ∀ t rest, ts = t :: rest → t.isNumber = false
  apart : Apart ts

theorem follows_cons {t : Token} {ts : List Token} (ht : t.isNumber = false) (h : Apart ts) :
    Follows (t :: ts) := by
  refine ⟨?_, apart_cons ht h⟩
  rintro u rest heq
  cases heq
  exact ht

theorem Follows.apart_leaf {ts : List Token} (h : Follows ts) (t : Token) : Apart (t :: ts) := by
  cases ts with
  | nil => trivial
  | cons u ts => exact ⟨fun _ => h.head u ts rfl, h.apart⟩

mutual
theorem apart_tokens {rest : List Token} (h : Follows rest) : ∀ d : Doc, Apart (d.tokens ++ rest)
  | .null => h.apart_leaf _
  | .bool _ => h.apart_leaf _
  | .number _ => h.apart_leaf _
  | .string _ => h.apart_leaf _
  | .array items => apart_cons rfl (apart_itemTokens h.apart items)
  | .object members => apart_cons rfl (apart_memberTokens h.apart members)

theorem apart_itemTokens {rest : List Token} (h : Apart rest) :
    ∀ items : List Doc, Apart (itemTokens items ++ rest)
  | [] => apart_cons rfl h
  | [d] => by
    rw [itemTokens_last]
    exact apart_tokens (follows_cons rfl h) d
  | d :: e :: ds => by
    rw [itemTokens_more]
    exact apart_tokens (follows_cons rfl (apart_itemTokens h (e :: ds))) d

theorem apart_memberTokens {rest : List Token} (h : Apart rest) :
    ∀ members : List (List Piece × Doc), Apart (memberTokens members ++ rest)
  | [] => apart_cons rfl h
  | [(_, d)] => by
    rw [memberTokens_last]
    exact apart_cons rfl (apart_cons rfl (apart_tokens (follows_cons rfl h) d))
  | (_, d) :: m :: ms => by
    rw [memberTokens_more]
    exact apart_cons rfl (apart_cons rfl
      (apart_tokens (follows_cons rfl (apart_memberTokens h (m :: ms))) d))
end

/-- **The tokens of a text are those of its tree.** -/
theorem tokens_of_isText {d : Doc} {s : String} (h : d.IsText s) : Json.tokens s = d.tokens := by
  refine tokens_of_spells h ?_
  have hend : Follows [] := ⟨(fun _ _ heq => by cases heq), trivial⟩
  have hapart := apart_tokens hend d
  rwa [List.append_nil] at hapart

/-! ### Fuel -/

section Fuel

variable {fuel : Nat} {d : Doc} {ds : List Doc} {m : List Piece × Doc}
  {ms : List (List Piece × Doc)}

/-- Fuel for a list is fuel for its first item and for its rest, one step later. -/
theorem fuel_itemTokens (h : 2 * (itemTokens (d :: ds)).length ≤ fuel) : ∃ n, fuel = n + 1 ∧
    2 * d.tokens.length ≤ n ∧ 2 * (itemTokens ds).length ≤ n := by
  have hlength := length_itemTokens d ds
  have hfirst := length_tokens_pos d
  have hrest := length_itemTokens_pos ds
  exact ⟨fuel - 1, by omega, by omega, by omega⟩

/-- Fuel for an object is fuel for its first value and for its rest, one step later. -/
theorem fuel_memberTokens (h : 2 * (memberTokens (m :: ms)).length ≤ fuel) : ∃ n, fuel = n + 1 ∧
    2 * m.2.tokens.length ≤ n ∧ 2 * (memberTokens ms).length ≤ n := by
  have hlength := length_memberTokens m ms
  have hfirst := length_tokens_pos m.2
  have hrest := length_memberTokens_pos ms
  exact ⟨fuel - 1, by omega, by omega, by omega⟩

end Fuel

/-! ### Reading -/

section Steps

variable {fuel depth : Nat} {v : Json} {ts rest after : List Token}

theorem readValue_array {items : List Json} (hne : ∀ r, ts ≠ .closeBracket :: r)
    (h : readItems fuel depth [] ts = .ok (items, rest)) :
    readValue (fuel + 1) (depth + 1) (.openBracket :: ts) = .ok (.array items, rest) := by
  rw [readValue, h]
  exact hne

theorem readValue_object {members : Dict Json} (hne : ∀ r, ts ≠ .closeBrace :: r)
    (h : readMembers fuel depth [] ts = .ok (members, rest)) :
    readValue (fuel + 1) (depth + 1) (.openBrace :: ts) = .ok (.object members, rest) := by
  rw [readValue, h]
  exact hne

theorem readItems_last {acc : List Json}
    (h : readValue fuel depth ts = .ok (v, .closeBracket :: rest)) :
    readItems (fuel + 1) depth acc ts = .ok ((v :: acc).reverse, rest) := by
  rw [readItems, h]

theorem readItems_more {acc : List Json} (h : readValue fuel depth ts = .ok (v, .comma :: rest)) :
    readItems (fuel + 1) depth acc ts = readItems fuel depth (v :: acc) rest := by
  rw [readItems, h]

theorem readMembers_last {acc : Dict Json} {key : String}
    (h : readValue fuel depth ts = .ok (v, .closeBrace :: rest)) :
    readMembers (fuel + 1) depth acc (.string (some key) :: .colon :: ts) =
      .ok (Dict.insert key v acc, rest) := by
  rw [readMembers, h]

theorem readMembers_more {acc : Dict Json} {key : String}
    (h : readValue fuel depth ts = .ok (v, .comma :: rest)) :
    readMembers (fuel + 1) depth acc (.string (some key) :: .colon :: ts) =
      readMembers fuel depth (Dict.insert key v acc) rest := by
  rw [readMembers, h]

end Steps

theorem values?_cons {d : Doc} {ds : List Doc} {vs : List Json} (h : values? (d :: ds) = some vs) :
    ∃ v rest, d.value? = some v ∧ values? ds = some rest ∧ vs = v :: rest := by
  rw [values?] at h
  split at h
  · rename_i v rest hv hrest
    cases h
    exact ⟨v, rest, hv, hrest, rfl⟩
  · cases h

theorem memberValues?_cons {key : List Piece} {d : Doc} {ms : List (List Piece × Doc)}
    {pairs : List (String × Json)} (h : memberValues? ((key, d) :: ms) = some pairs) :
    ∃ s v rest, textOf? key = some s ∧ d.value? = some v ∧ memberValues? ms = some rest ∧
      pairs = (s, v) :: rest := by
  rw [memberValues?] at h
  split at h
  · rename_i s v rest hs hv hrest
    cases h
    exact ⟨s, v, rest, hs, hv, hrest, rfl⟩
  · cases h

-- Two steps of fuel pay for each token: one for the list or object, one for what stands in it.
mutual
/-- **A value is read**, whatever follows it. -/
theorem readValue_tokens : ∀ (d : Doc) {v : Json} {fuel depth : Nat}, d.value? = some v →
    d.depth ≤ depth → 2 * d.tokens.length ≤ fuel → ∀ rest : List Token,
      readValue fuel depth (d.tokens ++ rest) = .ok (v, rest)
  | d, _, 0, _, _, _, hfuel, _ => by
    have hpos := length_tokens_pos d
    omega
  | .null, _, fuel + 1, _, hv, _, _, _ => by
    cases hv
    rfl
  | .bool b, _, fuel + 1, _, hv, _, _, _ => by
    cases hv
    rfl
  | .number l, _, fuel + 1, _, hv, _, _, _ => by
    obtain ⟨n, hn, rfl⟩ := Option.map_eq_some_iff.1 hv
    rw [tokens, hn]
    rfl
  | .string ps, _, fuel + 1, _, hv, _, _, _ => by
    obtain ⟨s, hs, rfl⟩ := Option.map_eq_some_iff.1 hv
    rw [tokens, hs]
    rfl
  | .array [], _, fuel + 1, depth + 1, hv, _, _, _ => by
    cases hv
    rfl
  | .array (d :: ds), _, fuel + 1, depth + 1, hv, hdepth, hfuel, rest => by
    obtain ⟨vs, hvs, rfl⟩ := Option.map_eq_some_iff.1 hv
    rw [Doc.depth] at hdepth
    rw [tokens, List.length_cons] at hfuel
    have hitems := readItems_tokens (d :: ds) (List.cons_ne_nil _ _) hvs
      (Nat.le_of_succ_le_succ hdepth) (show 2 * (itemTokens (d :: ds)).length ≤ fuel by omega) []
      rest
    rw [tokens, List.cons_append]
    exact readValue_array (itemTokens_ne d ds rest) hitems
  | .object [], _, fuel + 1, depth + 1, hv, _, _, _ => by
    cases hv
    rfl
  | .object ((key, d) :: ms), _, fuel + 1, depth + 1, hv, hdepth, hfuel, rest => by
    obtain ⟨pairs, hpairs, rfl⟩ := Option.map_eq_some_iff.1 hv
    rw [Doc.depth] at hdepth
    rw [tokens, List.length_cons] at hfuel
    have hmembers := readMembers_tokens ((key, d) :: ms) (List.cons_ne_nil _ _) hpairs
      (Nat.le_of_succ_le_succ hdepth)
      (show 2 * (memberTokens ((key, d) :: ms)).length ≤ fuel by omega) [] rest
    rw [tokens, List.cons_append]
    exact readValue_object (memberTokens_ne _ ms rest) hmembers
  -- without depth there are no lists and objects
  | .array items, _, fuel + 1, 0, _, hdepth, _, _ => by
    rw [Doc.depth] at hdepth
    omega
  | .object members, _, fuel + 1, 0, _, hdepth, _, _ => by
    rw [Doc.depth] at hdepth
    omega

theorem readItems_tokens : ∀ (items : List Doc) {vs : List Json} {fuel depth : Nat},
    items ≠ [] → values? items = some vs → itemDepth items ≤ depth →
      2 * (itemTokens items).length ≤ fuel → ∀ (acc : List Json) (rest : List Token),
        readItems fuel depth acc (itemTokens items ++ rest) = .ok (acc.reverse ++ vs, rest)
  | [], _, _, _, hne, _, _, _, _, _ => absurd rfl hne
  | [d], _, _, _, _, hvs, hdepth, hfuel, acc, rest => by
    obtain ⟨fuel, rfl, hd, -⟩ := fuel_itemTokens hfuel
    obtain ⟨v, _, hv, hnil, rfl⟩ := values?_cons hvs
    cases hnil
    rw [itemDepth, itemDepth, Nat.max_zero] at hdepth
    have hvalue := readValue_tokens d hv hdepth hd (.closeBracket :: rest)
    rw [itemTokens_last, readItems_last hvalue, List.reverse_cons]
  | d :: e :: ds, _, _, _, _, hvs, hdepth, hfuel, acc, rest => by
    obtain ⟨fuel, rfl, hd, hds⟩ := fuel_itemTokens hfuel
    obtain ⟨v, vs, hv, hrest, rfl⟩ := values?_cons hvs
    rw [itemDepth, Nat.max_le] at hdepth
    have hvalue := readValue_tokens d hv hdepth.1 hd (.comma :: (itemTokens (e :: ds) ++ rest))
    have hitems := readItems_tokens (e :: ds) (List.cons_ne_nil _ _) hrest hdepth.2 hds (v :: acc)
      rest
    rw [itemTokens_more, readItems_more hvalue, hitems, List.reverse_cons, List.append_assoc,
      List.singleton_append]

theorem readMembers_tokens : ∀ (members : List (List Piece × Doc)) {pairs : List (String × Json)}
    {fuel depth : Nat}, members ≠ [] → memberValues? members = some pairs →
      memberDepth members ≤ depth → 2 * (memberTokens members).length ≤ fuel →
        ∀ (acc : Dict Json) (rest : List Token),
          readMembers fuel depth acc (memberTokens members ++ rest) =
            .ok (pairs.foldl (fun d p => Dict.insert p.1 p.2 d) acc, rest)
  | [], _, _, _, hne, _, _, _, _, _ => absurd rfl hne
  | [(key, d)], _, _, _, _, hpairs, hdepth, hfuel, acc, rest => by
    obtain ⟨fuel, rfl, hd, -⟩ := fuel_memberTokens hfuel
    obtain ⟨s, v, _, hs, hv, hnil, rfl⟩ := memberValues?_cons hpairs
    cases hnil
    rw [memberDepth, memberDepth, Nat.max_zero] at hdepth
    have hvalue := readValue_tokens d hv hdepth hd (.closeBrace :: rest)
    rw [memberTokens_last, hs, readMembers_last hvalue]
    rfl
  | (key, d) :: m :: ms, _, _, _, _, hpairs, hdepth, hfuel, acc, rest => by
    obtain ⟨fuel, rfl, hd, hms⟩ := fuel_memberTokens hfuel
    obtain ⟨s, v, pairs, hs, hv, hrest, rfl⟩ := memberValues?_cons hpairs
    rw [memberDepth, Nat.max_le] at hdepth
    have hvalue := readValue_tokens d hv hdepth.1 hd (.comma :: (memberTokens (m :: ms) ++ rest))
    have hmembers := readMembers_tokens (m :: ms) (List.cons_ne_nil _ _) hrest hdepth.2 hms
      (Dict.insert s v acc) rest
    rw [memberTokens_more, hs, readMembers_more hvalue, hmembers]
    rfl
end

/-! ### Passing over -/

section SkipSteps

variable {fuel : Nat} {ts rest : List Token}

theorem skipValue_array (hne : ∀ r, ts ≠ .closeBracket :: r)
    (h : skipItems fuel ts = .ok rest) : skipValue (fuel + 1) (.openBracket :: ts) = .ok rest := by
  rw [skipValue, h]
  exact hne

theorem skipValue_object (hne : ∀ r, ts ≠ .closeBrace :: r)
    (h : skipMembers fuel ts = .ok rest) : skipValue (fuel + 1) (.openBrace :: ts) = .ok rest := by
  rw [skipValue, h]
  exact hne

theorem skipItems_last (h : skipValue fuel ts = .ok (.closeBracket :: rest)) :
    skipItems (fuel + 1) ts = .ok rest := by
  rw [skipItems, h]

theorem skipItems_more (h : skipValue fuel ts = .ok (.comma :: rest)) :
    skipItems (fuel + 1) ts = skipItems fuel rest := by
  rw [skipItems, h]

theorem skipMembers_last {key : Option String} (h : skipValue fuel ts = .ok (.closeBrace :: rest)) :
    skipMembers (fuel + 1) (.string key :: .colon :: ts) = .ok rest := by
  rw [skipMembers, h]

theorem skipMembers_more {key : Option String} (h : skipValue fuel ts = .ok (.comma :: rest)) :
    skipMembers (fuel + 1) (.string key :: .colon :: ts) = skipMembers fuel rest := by
  rw [skipMembers, h]

end SkipSteps

mutual
/-- **A value is passed over**, however deep it nests, and whether or not it is one. -/
theorem skipValue_tokens : ∀ (d : Doc) {fuel : Nat}, 2 * d.tokens.length ≤ fuel →
    ∀ rest : List Token, skipValue fuel (d.tokens ++ rest) = .ok rest
  | d, 0, hfuel, _ => by
    have hpos := length_tokens_pos d
    omega
  | .null, fuel + 1, _, _ => rfl
  | .bool b, fuel + 1, _, _ => rfl
  | .number l, fuel + 1, _, _ => rfl
  | .string ps, fuel + 1, _, _ => rfl
  | .array [], fuel + 1, _, _ => rfl
  | .array (d :: ds), fuel + 1, hfuel, rest => by
    rw [tokens, List.length_cons] at hfuel
    have hitems := skipItems_tokens (d :: ds) (List.cons_ne_nil _ _)
      (show 2 * (itemTokens (d :: ds)).length ≤ fuel by omega) rest
    rw [tokens, List.cons_append]
    exact skipValue_array (itemTokens_ne d ds rest) hitems
  | .object [], fuel + 1, _, _ => rfl
  | .object ((key, d) :: ms), fuel + 1, hfuel, rest => by
    rw [tokens, List.length_cons] at hfuel
    have hmembers := skipMembers_tokens ((key, d) :: ms) (List.cons_ne_nil _ _)
      (show 2 * (memberTokens ((key, d) :: ms)).length ≤ fuel by omega) rest
    rw [tokens, List.cons_append]
    exact skipValue_object (memberTokens_ne _ ms rest) hmembers

theorem skipItems_tokens : ∀ (items : List Doc) {fuel : Nat}, items ≠ [] →
    2 * (itemTokens items).length ≤ fuel →
      ∀ rest : List Token, skipItems fuel (itemTokens items ++ rest) = .ok rest
  | [], _, hne, _, _ => absurd rfl hne
  | [d], _, _, hfuel, rest => by
    obtain ⟨fuel, rfl, hd, -⟩ := fuel_itemTokens hfuel
    have hvalue := skipValue_tokens d hd (.closeBracket :: rest)
    rw [itemTokens_last, skipItems_last hvalue]
  | d :: e :: ds, _, _, hfuel, rest => by
    obtain ⟨fuel, rfl, hd, hds⟩ := fuel_itemTokens hfuel
    have hvalue := skipValue_tokens d hd (.comma :: (itemTokens (e :: ds) ++ rest))
    rw [itemTokens_more, skipItems_more hvalue]
    exact skipItems_tokens (e :: ds) (List.cons_ne_nil _ _) hds rest

theorem skipMembers_tokens : ∀ (members : List (List Piece × Doc)) {fuel : Nat}, members ≠ [] →
    2 * (memberTokens members).length ≤ fuel →
      ∀ rest : List Token, skipMembers fuel (memberTokens members ++ rest) = .ok rest
  | [], _, hne, _, _ => absurd rfl hne
  | [(key, d)], _, _, hfuel, rest => by
    obtain ⟨fuel, rfl, hd, -⟩ := fuel_memberTokens hfuel
    have hvalue := skipValue_tokens d hd (.closeBrace :: rest)
    rw [memberTokens_last, skipMembers_last hvalue]
  | (key, d) :: m :: ms, _, _, hfuel, rest => by
    obtain ⟨fuel, rfl, hd, hms⟩ := fuel_memberTokens hfuel
    have hvalue := skipValue_tokens d hd (.comma :: (memberTokens (m :: ms) ++ rest))
    rw [memberTokens_more, skipMembers_more hvalue]
    exact skipMembers_tokens (m :: ms) (List.cons_ne_nil _ _) hms rest
end

end Doc

/-! ### Whole texts -/

/-- **Every text is read as the value of its tree**, if the tree does not nest too deep. -/
theorem parse_of_isText {d : Doc} {s : String} {v : Json} (h : d.IsText s) (hv : d.value? = some v)
    (hdepth : d.depth ≤ nestingLimit) : parse s = .ok v := by
  have hread := Doc.readValue_tokens d hv hdepth
    (show 2 * d.tokens.length ≤ 2 * d.tokens.length + 1 by omega) []
  rw [List.append_nil] at hread
  rw [parse, parseWithin, Doc.tokens_of_isText h, hread]

end PrintClient.Json
