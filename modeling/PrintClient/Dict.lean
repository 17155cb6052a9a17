/-!
# Dictionaries in key order

A `Dict` is a list of key and value pairs whose keys increase by code point. `insert` keeps that
order and lets the last value of a key win, so equal contents are equal lists, whatever the order in
which they were entered.

* `insert`, `find?`, `keys`, `ofList`;
* `find?_insert_self`, `find?_insert_of_ne`: what a key holds after an insertion;
* `sorted_insert`: the order is kept;
* `ofList_of_sorted`: pairs in order are a dictionary as they stand;
* `eq_of_find?_eq`: dictionaries with the same values at all keys are equal.
-/

namespace PrintClient

/-- Key and value pairs, the keys increasing. -/
abbrev Dict (α : Type) := List (String × α)

namespace Dict

variable {α β : Type}

/-- The dictionary with `key` holding `value`. -/
def insert (key : String) (value : α) : Dict α → Dict α
  | [] => [(key, value)]
  | (k, v) :: rest =>
    if k = key then (key, value) :: rest
    else if key < k then (key, value) :: (k, v) :: rest
    else (k, v) :: insert key value rest

/-- The value of a key. -/
def find? (key : String) : Dict α → Option α
  | [] => none
  | (k, v) :: rest => if k = key then some v else find? key rest

/-- The keys in increasing order. -/
def keys (d : Dict α) : List String := d.map Prod.fst

/-- The dictionary of a list of pairs; of equal keys the last one counts. -/
def ofList (pairs : List (String × α)) : Dict α :=
  pairs.foldl (fun d p => insert p.1 p.2 d) []

/-- The keys increase. -/
def Sorted (d : Dict α) : Prop := d.Pairwise fun p q => p.1 < q.1

@[simp] theorem find?_nil (key : String) : find? key ([] : Dict α) = none := rfl

theorem find?_insert_self (key : String) (value : α) (d : Dict α) :
    find? key (insert key value d) = some value := by
  induction d with
  | nil => simp [insert, find?]
  | cons p rest ih =>
    obtain ⟨k, v⟩ := p
    by_cases h : k = key
    · simp [insert, find?, h]
    · by_cases hlt : key < k <;> simp [insert, find?, h, hlt, ih]

theorem find?_insert_of_ne {key other : String} (hne : other ≠ key) (value : α) (d : Dict α) :
    find? other (insert key value d) = find? other d := by
  induction d with
  | nil => simp [insert, find?, Ne.symm hne]
  | cons p rest ih =>
    obtain ⟨k, v⟩ := p
    by_cases h : k = key
    · subst h
      simp [insert, find?, Ne.symm hne]
    · by_cases hlt : key < k
      · simp [insert, find?, h, hlt, Ne.symm hne]
      · rw [insert, if_neg h, if_neg hlt]
        simp only [find?]
        split
        · rfl
        · exact ih

theorem mem_insert {key : String} {value : α} {d : Dict α} {p : String × α}
    (h : p ∈ insert key value d) : p = (key, value) ∨ p ∈ d := by
  induction d with
  | nil => simpa [insert] using h
  | cons q rest ih =>
    obtain ⟨k, v⟩ := q
    by_cases he : k = key
    · simp only [insert, if_pos he, List.mem_cons] at h
      exact h.imp id fun h => List.mem_cons_of_mem _ h
    · by_cases hlt : key < k
      · simp only [insert, if_neg he, if_pos hlt, List.mem_cons] at h
        simpa using h
      · simp only [insert, if_neg he, if_neg hlt, List.mem_cons] at h
        rcases h with h | h
        · exact .inr (h ▸ List.mem_cons_self)
        · exact (ih h).imp id fun h => List.mem_cons_of_mem _ h

theorem sorted_insert (key : String) (value : α) {d : Dict α} (h : Sorted d) :
    Sorted (insert key value d) := by
  induction d with
  | nil => simp [insert, Sorted]
  | cons q rest ih =>
    obtain ⟨k, v⟩ := q
    have hd := List.pairwise_cons.1 h
    by_cases he : k = key
    · subst he
      simpa [insert, Sorted] using h
    · by_cases hlt : key < k
      · simp only [insert, if_neg he, if_pos hlt]
        refine List.pairwise_cons.2 ⟨fun p hp => ?_, h⟩
        rcases List.mem_cons.1 hp with rfl | hp
        · exact hlt
        · exact String.lt_trans hlt (hd.1 p hp)
      · simp only [insert, if_neg he, if_neg hlt]
        refine List.pairwise_cons.2 ⟨fun p hp => ?_, ih hd.2⟩
        rcases mem_insert hp with rfl | hp
        · exact Std.lt_of_le_of_ne (String.not_lt.1 hlt) he
        · exact hd.1 p hp

/-- A key above all others goes to the end. -/
theorem insert_of_lt {key : String} (value : α) {d : Dict α} (h : ∀ p ∈ d, p.1 < key) :
    insert key value d = d ++ [(key, value)] := by
  induction d with
  | nil => rfl
  | cons p rest ih =>
    obtain ⟨k, v⟩ := p
    have hlt : k < key := h _ List.mem_cons_self
    have hne : k ≠ key := fun he => String.lt_irrefl key (he ▸ hlt)
    rw [insert, if_neg hne, if_neg (String.lt_asymm hlt),
      ih fun p hp => h p (List.mem_cons_of_mem _ hp)]
    rfl

theorem foldl_insert_of_sorted {d acc : Dict α} (h : Sorted (acc ++ d)) :
    d.foldl (fun d p => insert p.1 p.2 d) acc = acc ++ d := by
  induction d generalizing acc with
  | nil => rw [List.append_nil]; rfl
  | cons p rest ih =>
    have hlast : ∀ q ∈ acc, q.1 < p.1 := fun q hq =>
      (List.pairwise_append.1 h).2.2 q hq p List.mem_cons_self
    rw [List.append_cons] at h ⊢
    rw [List.foldl_cons, insert_of_lt p.2 hlast, ih h]

/-- Pairs whose keys increase are a dictionary as they stand. -/
theorem ofList_of_sorted {d : Dict α} (h : Sorted d) : ofList d = d := foldl_insert_of_sorted h

theorem find?_of_lt {key : String} {d : Dict α} (h : ∀ p ∈ d, key < p.1) : find? key d = none := by
  induction d with
  | nil => rfl
  | cons p rest ih =>
    obtain ⟨k, v⟩ := p
    have hne : k ≠ key := fun he => String.lt_irrefl key (he ▸ h _ List.mem_cons_self)
    rw [find?, if_neg hne]
    exact ih fun p hp => h p (List.mem_cons_of_mem _ hp)

theorem find?_of_mem {key : String} {value : α} {d : Dict α} (hd : Sorted d)
    (h : (key, value) ∈ d) : find? key d = some value := by
  induction d with
  | nil => cases h
  | cons p rest ih =>
    obtain ⟨k, v⟩ := p
    obtain ⟨hlt, hrest⟩ := List.pairwise_cons.1 hd
    rcases List.mem_cons.1 h with heq | h
    · cases heq
      exact if_pos rfl
    · have hne : k ≠ key := fun heq => String.lt_irrefl key (heq ▸ hlt _ h)
      rw [find?, if_neg hne]
      exact ih hrest h

theorem sorted_foldl (pairs : List (String × α)) {d : Dict α} (hd : Sorted d) :
    Sorted (pairs.foldl (fun d p => insert p.1 p.2 d) d) := by
  induction pairs generalizing d with
  | nil => exact hd
  | cons p pairs ih => exact ih (sorted_insert p.1 p.2 hd)

theorem sorted_ofList (pairs : List (String × α)) : Sorted (ofList pairs) :=
  sorted_foldl pairs List.Pairwise.nil

/-- **Dictionaries with the same value at every key are equal.** -/
theorem eq_of_find?_eq {d e : Dict α} (hd : Sorted d) (he : Sorted e)
    (h : ∀ key, find? key d = find? key e) : d = e := by
  induction d generalizing e with
  | nil =>
    cases e with
    | nil => rfl
    | cons q _ =>
      have hq := h q.1
      rw [find?_nil, find?, if_pos rfl] at hq
      cases hq
  | cons p rest ih =>
    obtain ⟨k, v⟩ := p
    cases e with
    | nil =>
      have hk := h k
      rw [find?_nil, find?, if_pos rfl] at hk
      cases hk
    | cons q rest' =>
      obtain ⟨l, w⟩ := q
      obtain ⟨hk, hrest⟩ := List.pairwise_cons.1 hd
      obtain ⟨hl, hrest'⟩ := List.pairwise_cons.1 he
      -- The least key of one is the least key of the other.
      have hkl : k = l := by
        refine Std.le_antisymm (String.not_lt.1 fun hlt => ?_) (String.not_lt.1 fun hlt => ?_)
        · have hnone : find? l ((k, v) :: rest) = none := find?_of_lt fun p hp =>
            (List.mem_cons.1 hp).elim (fun hp => hp ▸ hlt) fun hp => String.lt_trans hlt (hk p hp)
          rw [h l, find?, if_pos rfl] at hnone
          cases hnone
        · have hnone : find? k ((l, w) :: rest') = none := find?_of_lt fun p hp =>
            (List.mem_cons.1 hp).elim (fun hp => hp ▸ hlt) fun hp => String.lt_trans hlt (hl p hp)
          rw [← h k, find?, if_pos rfl] at hnone
          cases hnone
      subst hkl
      have hvalue := h k
      rw [find?, find?, if_pos rfl, if_pos rfl, Option.some.injEq] at hvalue
      subst hvalue
      rw [ih hrest hrest' fun key => ?_]
      by_cases hkey : k = key
      · subst hkey
        rw [find?_of_lt hk, find?_of_lt hl]
      · have hkey' := h key
        rwa [find?, find?, if_neg hkey, if_neg hkey] at hkey'

end Dict

end PrintClient
