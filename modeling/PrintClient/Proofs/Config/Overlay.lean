import Mathlib.Tactic.SplitIfs
import PrintClient.Config.Setting

/-!
# Settings laid over each other

What stands at the end of a path of keys after one setting was laid over another: what the upper one
has there, merged with what the lower one has; where the upper one has nothing, what the lower one
has, unless a setting of the upper one on the way is no table and hides it.

* `Dict.insert_comm`: the order of two insertions;
* `Setting.Ordered`: the tables of a setting, one within the other, have their keys in order;
* `find?_overlayTable`: one key of a merged table;
* `Setting.hides`, `at?_overlay`: the end of a path;
* `ordered_overlay`: the order is kept;
* `at?_nested`, `at?_nested_elsewhere`: a table that holds a single setting;
* `overlay_nested_comm`: two single settings in any order;
* `overlay_overlay_nested`, `overlay_nested_comm_of_clear`: a single setting over several layers.
-/

namespace PrintClient

namespace Dict

variable {α : Type} {key other : String} {value value' : α} {d : Dict α}

theorem insert_insert_self (key : String) (value value' : α) (d : Dict α) :
    insert key value (insert key value' d) = insert key value d := by
  induction d with
  | nil => simp [insert]
  | cons p rest ih =>
    obtain ⟨k, v⟩ := p
    by_cases h : k = key
    · simp [insert, h]
    · by_cases hlt : key < k
      · simp [insert, h, hlt]
      · simp [insert, h, hlt, ih]

theorem insert_comm_of_lt (hlt : key < other) (value value' : α) (d : Dict α) :
    insert key value (insert other value' d) = insert other value' (insert key value d) := by
  have hne : key ≠ other := fun heq => String.lt_irrefl key (heq ▸ hlt)
  have hnot : ¬ other < key := String.lt_asymm hlt
  induction d with
  | nil => simp [insert, hne, hne.symm, hlt, hnot]
  | cons p rest ih =>
    obtain ⟨k, v⟩ := p
    by_cases heq : k = key
    · subst heq
      simp [insert, hne, hnot]
    · by_cases hbefore : key < k
      · -- whatever stands in front after the insertion of the greater key is above the lesser one
        by_cases hother : k = other
        · simp [insert, hother, hne, hne.symm, hlt, hnot]
        · by_cases hfront : other < k <;>
            simp [insert, heq, hbefore, hother, hfront, hne, hne.symm, hlt, hnot]
      · have hbehind : k < key := Std.lt_of_le_of_ne (String.not_lt.1 hbefore) heq
        have hother : k < other := String.lt_trans hbehind hlt
        have hne' : k ≠ other := fun heq => String.lt_irrefl k (heq ▸ hother)
        simp [insert, heq, hbefore, hne', String.lt_asymm hother, ih]

/-- The order of two insertions does not matter, unless they are at one key. -/
theorem insert_comm (hne : key ≠ other) (value value' : α) (d : Dict α) :
    insert key value (insert other value' d) = insert other value' (insert key value d) := by
  by_cases hlt : key < other
  · exact insert_comm_of_lt hlt value value' d
  · have hlt' : other < key := Std.lt_of_le_of_ne (String.not_lt.1 hlt) hne.symm
    exact (insert_comm_of_lt hlt' value' value d).symm

theorem mem_of_find? (h : find? key d = some value) : (key, value) ∈ d := by
  induction d with
  | nil => cases h
  | cons p rest ih =>
    obtain ⟨k, v⟩ := p
    rw [find?] at h
    split_ifs at h with hkey
    · cases h
      rw [hkey]
      exact List.mem_cons_self
    · exact List.mem_cons_of_mem _ (ih h)

/-- A key that is not there yet is put somewhere among the others. -/
theorem exists_insert_of_find? (h : find? key d = none) (value : α) :
    ∃ before after, d = before ++ after ∧ insert key value d = before ++ (key, value) :: after := by
  induction d with
  | nil => exact ⟨[], [], rfl, rfl⟩
  | cons p rest ih =>
    obtain ⟨k, v⟩ := p
    rw [find?] at h
    split_ifs at h with hkey
    rw [insert, if_neg hkey]
    split_ifs with hlt
    · exact ⟨[], (k, v) :: rest, rfl, rfl⟩
    · obtain ⟨before, after, hrest, hinsert⟩ := ih h
      exact ⟨(k, v) :: before, after, by rw [hrest]; rfl, by rw [hinsert]; rfl⟩

end Dict

namespace Config

namespace Setting

variable {key : String} {path : List String} {s lower upper : Setting}
  {entries below above : Dict Setting}

/-! ### Tables in order -/

/-- The tables that paths of keys lead to have their keys in order. Within lists anything may
stand. -/
def Ordered (s : Setting) : Prop :=
  ∀ path entries, s.at? path = some (.table entries) → Dict.Sorted entries

theorem at?_nil (s : Setting) : s.at? [] = some s := rfl

theorem at?_table (key : String) (path : List String) (entries : Dict Setting) :
    (table entries).at? (key :: path) = (Dict.find? key entries).bind (at? path) := rfl

theorem table_or_not (s : Setting) :
    (∃ entries, s = .table entries) ∨ ∀ entries, s ≠ .table entries := by
  cases s <;> simp

/-- A setting that is no table has nothing in it. -/
theorem at?_of_not_table (h : ∀ entries, s ≠ .table entries) (key : String) (path : List String) :
    s.at? (key :: path) = none := by
  cases s <;> first | rfl | exact absurd rfl (h _)

theorem ordered_of_not_table (h : ∀ entries, s ≠ .table entries) : s.Ordered := by
  intro path entries hat
  cases path with
  | nil => exact absurd (Option.some_inj.1 hat) (h entries)
  | cons key path =>
    rw [at?_of_not_table h] at hat
    cases hat

/-- A table is in order if its keys and the settings under them are. -/
theorem ordered_table (hsorted : Dict.Sorted entries)
    (h : ∀ key s, Dict.find? key entries = some s → s.Ordered) : (table entries).Ordered := by
  intro path inner hat
  cases path with
  | nil =>
    cases hat
    exact hsorted
  | cons key path =>
    obtain ⟨s, hfind, hinner⟩ := Option.bind_eq_some_iff.1 hat
    exact h key s hfind path inner hinner

theorem Ordered.sorted (h : (table entries).Ordered) : Dict.Sorted entries := h [] entries rfl

theorem Ordered.find? (h : (table entries).Ordered) (hfind : Dict.find? key entries = some s) :
    s.Ordered := by
  intro path inner hat
  refine h (key :: path) inner ?_
  rw [at?_table, hfind]
  exact hat

theorem ordered_table_nil : (table []).Ordered :=
  ordered_table List.Pairwise.nil fun _ _ h => by cases h

theorem ordered_insert (h : (table entries).Ordered) (hs : s.Ordered) :
    (table (Dict.insert key s entries)).Ordered := by
  refine ordered_table (Dict.sorted_insert key s h.sorted) fun other t hfind => ?_
  by_cases hkey : other = key
  · rw [hkey, Dict.find?_insert_self] at hfind
    cases hfind
    exact hs
  · rw [Dict.find?_insert_of_ne hkey] at hfind
    exact h.find? hfind

theorem at?_append (path rest : List String) (s : Setting) :
    s.at? (path ++ rest) = (s.at? path).bind (at? rest) := by
  induction path generalizing s with
  | nil => rfl
  | cons key path ih =>
    rw [List.cons_append]
    obtain ⟨entries, rfl⟩ | hother := table_or_not s
    · rw [at?_table, at?_table]
      cases Dict.find? key entries with
      | none => rfl
      | some t => exact ih t
    · rw [at?_of_not_table hother, at?_of_not_table hother]
      rfl

theorem Ordered.at? {inner : Setting} (h : s.Ordered) (hat : s.at? path = some inner) :
    inner.Ordered := by
  intro rest entries htable
  refine h (path ++ rest) entries ?_
  rw [at?_append, hat]
  exact htable

/-- The keys of the table that a path leads to. -/
theorem at?_concat (h : s.at? path = some (.table entries)) (key : String) :
    s.at? (path ++ [key]) = Dict.find? key entries := by
  rw [at?_append, h]
  exact Option.bind_fun_some _

/-! ### Merged tables -/

/-- A setting laid over what there is, if there is anything. -/
def onto (lower : Option Setting) (upper : Setting) : Setting :=
  match lower with
  | some lower => lower.overlay upper
  | none => upper

theorem overlay_of_not_table (h : ∀ entries, upper ≠ .table entries) :
    lower.overlay upper = upper := by
  cases upper <;> first | rfl | exact absurd rfl (h _)

theorem overlay_table (below above : Dict Setting) :
    (table below).overlay (.table above) = .table (overlayTable below above) := rfl

theorem overlay_onto_other (h : ∀ entries, lower ≠ .table entries) :
    lower.overlay (.table above) = .table above := by
  cases lower <;> first | rfl | exact absurd rfl (h _)

/-- A table stays one, whatever it is laid over. -/
theorem exists_onto_table (lower : Option Setting) (above : Dict Setting) :
    ∃ entries, some (onto lower (.table above)) = some (table entries) := by
  cases lower with
  | none => exact ⟨above, rfl⟩
  | some t =>
    obtain ⟨below, rfl⟩ | hother := table_or_not t
    · exact ⟨overlayTable below above, rfl⟩
    · exact ⟨above, congrArg some (overlay_onto_other hother)⟩

theorem overlayTable_cons (below : Dict Setting) (key : String) (s : Setting)
    (rest : Dict Setting) : overlayTable below ((key, s) :: rest) =
      overlayTable (Dict.insert key (onto (Dict.find? key below) s) below) rest := by
  rw [overlayTable]
  rfl

theorem sorted_overlayTable (h : Dict.Sorted below) (above : Dict Setting) :
    Dict.Sorted (overlayTable below above) := by
  induction above generalizing below with
  | nil => exact h
  | cons p rest ih =>
    rw [overlayTable_cons]
    exact ih (Dict.sorted_insert _ _ h)

/-- One key of a merged table. -/
theorem find?_overlayTable (h : Dict.Sorted above) (below : Dict Setting) (key : String) :
    Dict.find? key (overlayTable below above) =
      match Dict.find? key above with
      | some s => some (onto (Dict.find? key below) s)
      | none => Dict.find? key below := by
  induction above generalizing below with
  | nil => rfl
  | cons p rest ih =>
    obtain ⟨k, s⟩ := p
    obtain ⟨hfirst, hrest⟩ := List.pairwise_cons.1 h
    rw [overlayTable_cons, ih hrest, Dict.find?]
    by_cases hkey : k = key
    · subst hkey
      rw [if_pos rfl, Dict.find?_of_lt hfirst, Dict.find?_insert_self]
    · rw [if_neg hkey, Dict.find?_insert_of_ne (Ne.symm hkey)]

/-! ### The end of a path -/

/-- Whether a setting laid over another hides what that one has at the end of a path, for it has a
setting on the way that is no table. -/
def hides : List String → Setting → Bool
  | [], _ => false
  | key :: path, .table entries =>
    match Dict.find? key entries with
    | some s => s.hides path
    | none => false
  | _ :: _, _ => true

/-- **What stands at the end of a path after one setting was laid over another.** -/
theorem at?_overlay (h : upper.Ordered) (lower : Setting) (path : List String) :
    (lower.overlay upper).at? path =
      match upper.at? path with
      | some s => some (onto (lower.at? path) s)
      | none => if upper.hides path then none else lower.at? path := by
  induction path generalizing lower upper with
  | nil => rfl
  | cons key path ih =>
    obtain ⟨above, rfl⟩ | hupper := table_or_not upper
    · obtain ⟨below, rfl⟩ | hlower := table_or_not lower
      · rw [overlay_table, at?_table, at?_table, at?_table, find?_overlayTable h.sorted, hides]
        cases hfind : Dict.find? key above with
        | none => simp
        | some s =>
          cases Dict.find? key below with
          | none => cases hat : s.at? path <;> simp [onto, hat]
          | some t => simpa [onto] using ih (h.find? hfind) t
      · rw [overlay_onto_other hlower, at?_of_not_table hlower]
        cases (table above).at? (key :: path) <;> simp [onto]
    · rw [overlay_of_not_table hupper, at?_of_not_table hupper]
      cases upper <;> first | rfl | exact absurd rfl (hupper _)

theorem reaches_of_at? {inner : Setting} (h : s.at? path = some inner) : s.reaches path = true := by
  induction path generalizing s with
  | nil => cases s <;> rfl
  | cons key path ih =>
    obtain ⟨entries, rfl⟩ | hs := table_or_not s
    · rw [at?_table] at h
      obtain ⟨t, ht, hat⟩ := Option.bind_eq_some_iff.1 h
      rw [reaches, ht]
      exact ih hat
    · rw [at?_of_not_table hs] at h
      cases h

/-- What neither of two settings hides is not hidden by the two together. -/
theorem hides_overlay (h : upper.Ordered) (hlower : lower.hides path = false)
    (hupper : upper.hides path = false) : (lower.overlay upper).hides path = false := by
  induction path generalizing lower upper with
  | nil => rfl
  | cons key path ih =>
    obtain ⟨above, rfl⟩ | hother := table_or_not upper
    · obtain ⟨below, rfl⟩ | hother := table_or_not lower
      · rw [hides] at hlower hupper
        rw [overlay_table, hides, find?_overlayTable h.sorted]
        cases hfind : Dict.find? key above with
        | none => exact hlower
        | some s =>
          rw [hfind] at hupper
          cases hbelow : Dict.find? key below with
          | none => exact hupper
          | some t =>
            rw [hbelow] at hlower
            exact ih (h.find? hfind) hlower hupper
      · rw [overlay_onto_other hother]
        exact hupper
    · rw [overlay_of_not_table hother]
      exact hupper

/-- **Settings in order stay so when they are laid over each other.** -/
theorem ordered_overlay (hlower : lower.Ordered) (hupper : upper.Ordered) :
    (lower.overlay upper).Ordered := by
  intro path entries hat
  rw [at?_overlay hupper] at hat
  split at hat
  · rename_i s hs
    obtain ⟨above, rfl⟩ | hother := table_or_not s
    · cases hbelow : lower.at? path with
      | none =>
        rw [hbelow] at hat
        cases hat
        exact hupper path _ hs
      | some t =>
        rw [hbelow] at hat
        obtain ⟨below, rfl⟩ | hother := table_or_not t
        · cases hat
          exact sorted_overlayTable (hlower path below hbelow) above
        · rw [onto, overlay_onto_other hother] at hat
          cases hat
          exact hupper path _ hs
    · cases hbelow : lower.at? path with
      | none =>
        rw [hbelow] at hat
        exact absurd (Option.some_inj.1 hat) (hother entries)
      | some t =>
        rw [hbelow, onto, overlay_of_not_table hother] at hat
        exact absurd (Option.some_inj.1 hat) (hother entries)
  · split at hat
    · cases hat
    · exact hlower path entries hat

/-! ### A table with a single setting -/

section Nested

variable {other : List String} {value : Setting}

theorem nested_cons (key : String) (path : List String) (value : Setting) :
    nested (key :: path) value = .table [(key, nested path value)] := rfl

theorem find?_single (key other : String) (s : Setting) :
    Dict.find? other [(key, s)] = if key = other then some s else none := rfl

theorem ordered_nested (h : value.Ordered) (path : List String) : (nested path value).Ordered := by
  induction path with
  | nil => exact h
  | cons key path ih => exact ordered_insert ordered_table_nil ih

/-- On the way to the setting there are tables that hold nothing else. -/
theorem at?_nested (path rest : List String) (value : Setting) :
    (nested (path ++ rest) value).at? path = some (nested rest value) := by
  induction path with
  | nil => rfl
  | cons key path ih =>
    rw [List.cons_append, nested_cons, at?_table, find?_single, if_pos rfl]
    exact ih

theorem hides_nested (path rest : List String) (value : Setting) :
    (nested (path ++ rest) value).hides path = false := by
  induction path with
  | nil => rfl
  | cons key path ih =>
    rw [List.cons_append, nested_cons, hides, find?_single, if_pos rfl]
    exact ih

/-- Away from the way to the setting there is nothing. -/
theorem at?_nested_elsewhere (h : ¬ other <+: path) (h' : ¬ path <+: other) (value : Setting) :
    (nested path value).at? other = none ∧ (nested path value).hides other = false := by
  induction path generalizing other with
  | nil => exact absurd List.nil_prefix h'
  | cons key path ih =>
    cases other with
    | nil => exact absurd List.nil_prefix h
    | cons key' other =>
      rw [nested_cons, at?_table, hides, find?_single]
      by_cases hkey : key = key'
      · subst hkey
        rw [if_pos rfl]
        refine ih (fun hp => h ?_) (fun hp => h' ?_)
        · exact List.cons_prefix_cons.2 ⟨rfl, hp⟩
        · exact List.cons_prefix_cons.2 ⟨rfl, hp⟩
      · rw [if_neg hkey]
        exact ⟨rfl, rfl⟩

/-- A setting put at the end of a path of keys. -/
theorem overlay_nested_cons (entries : Dict Setting) (key : String) (path : List String)
    (value : Setting) : (table entries).overlay (nested (key :: path) value) =
      .table (Dict.insert key (onto (Dict.find? key entries) (nested path value)) entries) := by
  rw [nested_cons, overlay_table, overlayTable_cons]
  rfl

theorem nil_overlay_nested (h : path ≠ []) (value : Setting) :
    (table []).overlay (nested path value) = nested path value := by
  cases path with
  | nil => exact absurd rfl h
  | cons key path =>
    rw [overlay_nested_cons]
    rfl

theorem overlay_nested_of_not_table (h : ∀ entries, s ≠ .table entries) (key : String)
    (path : List String) (value : Setting) : s.overlay (nested (key :: path) value) =
      (table []).overlay (nested (key :: path) value) := by
  rw [overlay_nested_cons, nested_cons, overlay_onto_other h]
  rfl

/-- **Settings put at the ends of two paths, none of which leads through the other, can be put there
in any order.** -/
theorem overlay_nested_comm {value' : Setting} (h : ¬ path <+: other) (h' : ¬ other <+: path)
    (s : Setting) :
    (s.overlay (nested path value)).overlay (nested other value') =
      (s.overlay (nested other value')).overlay (nested path value) := by
  induction path generalizing other s with
  | nil => exact absurd List.nil_prefix h
  | cons key path ih =>
    cases other with
    | nil => exact absurd List.nil_prefix h'
    | cons key' other =>
      have htable (entries : Dict Setting) :
          ((table entries).overlay (nested (key :: path) value)).overlay
              (nested (key' :: other) value') =
            ((table entries).overlay (nested (key' :: other) value')).overlay
              (nested (key :: path) value) := by
        simp only [overlay_nested_cons]
        by_cases hkey : key = key'
        · subst hkey
          have hpath : ¬ path <+: other := fun hp => h (List.cons_prefix_cons.2 ⟨rfl, hp⟩)
          have hother : ¬ other <+: path := fun hp => h' (List.cons_prefix_cons.2 ⟨rfl, hp⟩)
          rw [Dict.find?_insert_self, Dict.find?_insert_self, Dict.insert_insert_self,
            Dict.insert_insert_self]
          cases Dict.find? key entries with
          | some t => rw [onto, onto, onto, onto, ih hpath hother t]
          | none =>
            have hnil := ih hpath hother (table [])
            have hne : path ≠ [] := by
              rintro rfl
              exact hpath List.nil_prefix
            have hne' : other ≠ [] := by
              rintro rfl
              exact hother List.nil_prefix
            rw [nil_overlay_nested hne, nil_overlay_nested hne'] at hnil
            rw [onto, onto, onto, onto, hnil]
        · rw [Dict.find?_insert_of_ne (Ne.symm hkey), Dict.find?_insert_of_ne hkey,
            Dict.insert_comm (Ne.symm hkey)]
      obtain ⟨entries, rfl⟩ | hs := table_or_not s
      · exact htable entries
      · rw [overlay_nested_of_not_table hs, overlay_nested_of_not_table hs]
        exact htable []

end Nested

/-! ### A single setting over several layers -/

section Layers

variable {value middle : Setting}

/-- Merging with a table that has one key more. -/
theorem overlayTable_insert (hbelow : Dict.Sorted below) (habove : Dict.Sorted above) (key : String)
    (value : Setting) : overlayTable below (Dict.insert key value above) =
      Dict.insert key (onto (Dict.find? key below) value) (overlayTable below above) := by
  have hinsert := Dict.sorted_insert key value habove
  have hmerged := sorted_overlayTable hbelow above
  refine Dict.eq_of_find?_eq (sorted_overlayTable hbelow _) (Dict.sorted_insert key _ hmerged) ?_
  intro other
  rw [find?_overlayTable hinsert]
  by_cases hkey : other = key
  · subst hkey
    rw [Dict.find?_insert_self, Dict.find?_insert_self]
  · rw [Dict.find?_insert_of_ne hkey, Dict.find?_insert_of_ne hkey, find?_overlayTable habove]

theorem exists_table_of_hides (h : upper.hides (key :: path) = false) :
    ∃ entries, upper = .table entries := by
  cases upper with
  | table entries => exact ⟨entries, rfl⟩
  | _ => cases h

theorem hides_find? (h : (table above).hides (key :: path) = false)
    (hfind : Dict.find? key above = some value) : value.hides path = false := by
  rwa [hides, hfind] at h

/-- A setting at the end of a path is put over two layers as it is put over the upper one, unless
that one hides the path. -/
theorem overlay_overlay_nested (hlower : lower.Ordered) (hmiddle : middle.Ordered)
    (hvalue : ∀ entries, value ≠ .table entries) (h : middle.hides path = false) :
    lower.overlay (middle.overlay (nested path value)) =
      (lower.overlay middle).overlay (nested path value) := by
  induction path generalizing lower middle with
  | nil => 
    show lower.overlay (middle.overlay value) = (lower.overlay middle).overlay value
    rw [overlay_of_not_table hvalue, overlay_of_not_table hvalue, overlay_of_not_table hvalue]
  | cons key path ih =>
    obtain ⟨above, rfl⟩ := exists_table_of_hides h
    obtain ⟨below, rfl⟩ | hother := table_or_not lower
    · rw [overlay_nested_cons, overlay_table, overlay_table, overlay_nested_cons,
        overlayTable_insert hlower.sorted hmiddle.sorted, find?_overlayTable hmiddle.sorted]
      cases hfind : Dict.find? key above with
      | none => rfl
      | some s =>
        cases hbelow : Dict.find? key below with
        | none => rfl
        | some t =>
          have hinner := ih (hlower.find? hbelow) (hmiddle.find? hfind) (hides_find? h hfind)
          simp only [onto, hinner]
    · rw [overlay_nested_cons, overlay_onto_other hother, overlay_onto_other hother,
        overlay_nested_cons]

theorem nil_overlay (h : upper.Ordered) (htable : ∃ entries, upper = .table entries) :
    (table []).overlay upper = upper := by
  obtain ⟨above, rfl⟩ := htable
  rw [overlay_table]
  congr 1
  refine Dict.eq_of_find?_eq (sorted_overlayTable List.Pairwise.nil _) h.sorted fun key => ?_
  rw [find?_overlayTable h.sorted]
  cases Dict.find? key above <;> rfl

/-- A setting that is no table stands beside one that has nothing at the end of its path, whatever
there is below. -/
theorem onto_onto_comm {other : Option Setting} (hupper : upper.Ordered)
    (hnested : (nested path value).Ordered) (hnone : upper.at? path = none)
    (h : upper.hides path = false)
    (hcomm : ∀ t, other = some t ∨ t = table [] →
      (t.overlay upper).overlay (nested path value) =
        (t.overlay (nested path value)).overlay upper) :
    onto (some (onto other upper)) (nested path value) =
      onto (some (onto other (nested path value))) upper := by
  cases other with
  | some t => exact hcomm t (.inl rfl)
  | none =>
    have hnil := hcomm (table []) (.inr rfl)
    cases path with
    | nil => cases hnone
    | cons key path =>
      rwa [nil_overlay hupper (exists_table_of_hides h), nil_overlay hnested ⟨_, rfl⟩] at hnil

/-- It does not matter whether it is put there before or after a setting that has nothing there and
does not hide the path. -/
theorem overlay_nested_comm_of_clear (hlower : lower.Ordered) (hupper : upper.Ordered)
    (hvalue : ∀ entries, value ≠ .table entries) (hnone : upper.at? path = none)
    (h : upper.hides path = false) :
    (lower.overlay upper).overlay (nested path value) =
      (lower.overlay (nested path value)).overlay upper := by
  induction path generalizing lower upper with
  | nil => cases hnone
  | cons key path ih =>
    obtain ⟨above, rfl⟩ := exists_table_of_hides h
    have hnested := ordered_nested (ordered_of_not_table hvalue) path
    have htable (below : Dict Setting) (hbelow : (table below).Ordered) :
        ((table below).overlay (.table above)).overlay (nested (key :: path) value) =
          ((table below).overlay (nested (key :: path) value)).overlay (.table above) := by
      have hleft := sorted_overlayTable hbelow.sorted above
      have hright := Dict.sorted_insert key (onto (Dict.find? key below) (nested path value))
        hbelow.sorted
      rw [overlay_nested_cons, overlay_table, overlay_table, overlay_nested_cons]
      congr 1
      refine Dict.eq_of_find?_eq (Dict.sorted_insert key _ hleft) (sorted_overlayTable hright _) ?_
      intro other
      rw [find?_overlayTable hupper.sorted, find?_overlayTable hupper.sorted]
      by_cases hkey : other = key
      · subst hkey
        rw [Dict.find?_insert_self, Dict.find?_insert_self]
        cases hfind : Dict.find? other above with
        | none => rfl
        | some s =>
          have hs := hides_find? h hfind
          rw [at?_table, hfind] at hnone
          refine congrArg some (onto_onto_comm (hupper.find? hfind) hnested hnone hs ?_)
          rintro t (ht | rfl)
          · exact ih (hbelow.find? ht) (hupper.find? hfind) hnone hs
          · exact ih ordered_table_nil (hupper.find? hfind) hnone hs
      · rw [Dict.find?_insert_of_ne hkey, Dict.find?_insert_of_ne hkey,
          find?_overlayTable hupper.sorted]
    obtain ⟨below, rfl⟩ | hother := table_or_not lower
    · exact htable below hlower
    · rw [overlay_onto_other hother, overlay_nested_of_not_table hother,
        ← htable [] ordered_table_nil, nil_overlay hupper ⟨above, rfl⟩]

end Layers

end Setting

end Config

end PrintClient
