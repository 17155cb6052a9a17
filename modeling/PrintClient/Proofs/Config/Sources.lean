import PrintClient.Config.Reading
import PrintClient.Proofs.Config.Overlay

/-!
# The sources have their keys in order

A document and a variable put every entry into a table by its key, so a table never has a key twice
and all tables that can be reached by keys are in order. What a path of keys leads to does not
depend on where in the source an entry was written.

* `settings_insert`, `find?_settings`: the settings of a table that is being read;
* `Toml.ordered_of_assign?`, `Toml.ordered_of_within?`: every change of a document keeps the order;
* `Toml.ordered_of_parse?`: documents;
* `ordered_readSetting`: the values of variables.
-/

namespace PrintClient

open Config (Setting)
open Config.Setting

namespace Toml

variable {key : String} {path : List String} {node : Node} {v : Setting}
  {entries inner changed : Dict Node} {cs rest : List Char}

/-! ### Tables that are being read -/

theorem settings_cons (key : String) (node : Node) (entries : Dict Node) :
    settings ((key, node) :: entries) = (key, node.setting) :: settings entries := by
  rw [settings]

theorem settings_insert (key : String) (node : Node) (entries : Dict Node) :
    settings (Dict.insert key node entries) = Dict.insert key node.setting (settings entries) := by
  induction entries with
  | nil => rfl
  | cons p entries ih =>
    obtain ⟨k, n⟩ := p
    rw [settings_cons, Dict.insert, Dict.insert]
    split
    · rw [settings_cons]
    · split
      · rw [settings_cons, settings_cons]
      · rw [settings_cons, ih]

theorem find?_settings (key : String) (entries : Dict Node) :
    Dict.find? key (settings entries) = (Dict.find? key entries).map Node.setting := by
  induction entries with
  | nil => rfl
  | cons p entries ih =>
    obtain ⟨k, n⟩ := p
    rw [settings_cons, Dict.find?, Dict.find?, ih]
    split <;> rfl

/-- The tables of a document that is being read have their keys in order. -/
def Ordered (entries : Dict Node) : Prop := (Setting.table (settings entries)).Ordered

theorem ordered_nil : Ordered [] := ordered_table_nil

theorem Ordered.insert (h : Ordered entries) (hnode : node.setting.Ordered) (key : String) :
    Ordered (Dict.insert key node entries) := by
  rw [Ordered, settings_insert]
  exact ordered_insert h hnode

theorem Ordered.insert_value (h : Ordered entries) (hv : v.Ordered) (key : String) :
    Ordered (Dict.insert key (.value v) entries) :=
  h.insert (by rwa [Node.setting]) key

theorem Ordered.insert_table (h : Ordered entries) (hinner : Ordered inner) (origin : Origin)
    (key : String) : Ordered (Dict.insert key (.table origin inner) entries) :=
  h.insert (by rwa [Node.setting]) key

/-- Nothing is asked of what stands within a list. -/
theorem Ordered.insert_items (h : Ordered entries) (tables : List (Dict Node)) (key : String) :
    Ordered (Dict.insert key (.items tables) entries) := by
  refine h.insert (ordered_of_not_table fun es heq => ?_) key
  rw [Node.setting] at heq
  cases heq

theorem Ordered.of_find? {origin : Origin} (h : Ordered entries)
    (hfind : Dict.find? key entries = some (.table origin inner)) : Ordered inner := by
  have hsetting : Dict.find? key (settings entries) = some (.table (settings inner)) := by
    rw [find?_settings, hfind, Option.map_some, Node.setting]
  exact Setting.Ordered.find? h hsetting

/-! ### Changes -/

/-- A value under a dotted key keeps the order. -/
theorem ordered_of_assign? (h : Ordered entries) (hv : v.Ordered)
    (hassign : assign? path key v entries = some changed) : Ordered changed := by
  induction path generalizing entries changed with
  | nil =>
    rw [assign?] at hassign
    split at hassign <;> cases hassign
    exact h.insert_value hv key
  | cons k path ih =>
    rw [assign?] at hassign
    split at hassign
    · obtain ⟨es, hes, rfl⟩ := Option.map_eq_some_iff.1 hassign
      exact h.insert_table (ih ordered_nil hes) _ k
    · cases hassign
    · rename_i origin inner hfind
      split at hassign
      · cases hassign
      · obtain ⟨es, hes, rfl⟩ := Option.map_eq_some_iff.1 hassign
        exact h.insert_table (ih (h.of_find? hfind) hes) _ k
    · cases hassign
    · split at hassign
      · cases hassign
      · obtain ⟨es, -, rfl⟩ := Option.map_eq_some_iff.1 hassign
        exact h.insert_items _ k

/-- So does a change below a header, if it keeps the order of the table of the header. -/
theorem ordered_of_within? {change : Dict Node → Option (Dict Node)}
    (hchange : ∀ es es', Ordered es → change es = some es' → Ordered es') (h : Ordered entries)
    (hwithin : within? path change entries = some changed) : Ordered changed := by
  induction path generalizing entries changed with
  | nil => exact hchange entries changed h hwithin
  | cons k path ih =>
    rw [within?] at hwithin
    split at hwithin
    · obtain ⟨es, hes, rfl⟩ := Option.map_eq_some_iff.1 hwithin
      exact h.insert_table (ih ordered_nil hes) _ k
    · cases hwithin
    · rename_i origin inner hfind
      obtain ⟨es, hes, rfl⟩ := Option.map_eq_some_iff.1 hwithin
      exact h.insert_table (ih (h.of_find? hfind) hes) _ k
    · cases hwithin
    · obtain ⟨es, -, rfl⟩ := Option.map_eq_some_iff.1 hwithin
      exact h.insert_items _ k

theorem ordered_of_openTable? (h : Ordered entries)
    (hopen : openTable? key entries = some changed) : Ordered changed := by
  rw [openTable?] at hopen
  split at hopen
  · cases hopen
    exact h.insert_table ordered_nil _ key
  · rename_i inner hfind
    cases hopen
    exact h.insert_table (h.of_find? hfind) _ key
  · cases hopen

theorem ordered_of_openItem? (h : Ordered entries)
    (hopen : openItem? key entries = some changed) : Ordered changed := by
  rw [openItem?] at hopen
  split at hopen
  · cases hopen
    exact h.insert_items _ key
  · cases hopen
    exact h.insert_items _ key
  · cases hopen

/-! ### Values -/

theorem ordered_of_readNumber? (h : readNumber? cs = some (v, rest)) : v.Ordered := by
  rw [readNumber?] at h
  split at h
  · cases h
    exact ordered_of_not_table nofun
  · split at h
    · split at h <;> cases h
      exact ordered_of_not_table nofun
    · cases h

/-- A date is a table with one key. -/
theorem ordered_of_readDate? (h : readDate? cs = some (v, rest)) : v.Ordered := by
  have hdate (text : List Char) : (table [(dateKey, .text (String.ofList text))]).Ordered :=
    ordered_nested (ordered_of_not_table fun _ heq => by cases heq) [dateKey]
  unfold readDate? at h
  dsimp only at h
  split at h
  · split at h
    · obtain ⟨p, -, heq⟩ := Option.map_eq_some_iff.1 h
      cases heq
      exact hdate _
    · cases h
      exact hdate _
  · obtain ⟨p, -, heq⟩ := Option.map_eq_some_iff.1 h
    cases heq
    exact hdate _

/-- The induction is on the number of values that may be read, for values and for the entries of
inline tables at once. -/
theorem ordered_of_read (fuel : Nat) :
    (∀ depth cs v rest, readValue? fuel depth cs = some (v, rest) → v.Ordered) ∧
    ∀ depth acc cs es rest, Ordered acc → readEntries? fuel depth acc cs = some (es, rest) →
      Ordered es := by
  induction fuel with
  | zero =>
    refine ⟨fun depth cs v rest h => ?_, fun depth acc cs es rest hacc h => ?_⟩
    · rw [readValue?] at h
      cases h
    · rw [readEntries?] at h
      cases h
  | succ fuel ih =>
    obtain ⟨hvalue, hentries⟩ := ih
    refine ⟨fun depth cs v rest h => ?_, fun depth acc cs es rest hacc h => ?_⟩
    · unfold readValue? at h
      split at h
      · cases h
      · split at h
        · cases h
        · obtain ⟨p, -, heq⟩ := Option.map_eq_some_iff.1 h
          cases heq
          exact ordered_of_not_table nofun
      · split at h
        · cases h
        · split at h
          · cases h
            exact ordered_table_nil
          · obtain ⟨p, hread, heq⟩ := Option.map_eq_some_iff.1 h
            cases heq
            exact hentries _ _ _ _ _ ordered_nil hread
      · cases h
        exact ordered_of_not_table nofun
      · cases h
        exact ordered_of_not_table nofun
      · split at h
        · obtain ⟨p, -, heq⟩ := Option.map_eq_some_iff.1 h
          cases heq
          exact ordered_of_not_table nofun
        · split at h
          · rename_i hdate
            cases h
            exact ordered_of_readDate? hdate
          · exact ordered_of_readNumber? h
    · rw [readEntries?] at h
      split at h
      · split at h
        · cases h
        · rename_i v rest hread
          split at h
          · rename_i acc' hassign _
            exact hentries _ _ _ _ _ (ordered_of_assign? hacc (hvalue _ _ _ _ hread) hassign) h
          · rename_i acc' hassign _
            cases h
            exact ordered_of_assign? hacc (hvalue _ _ _ _ hread) hassign
          · cases h
      · cases h

/-! ### Documents -/

theorem ordered_of_readLine? {r r' : Reading} (h : Ordered r.root)
    (hline : readLine? r cs = some (r', rest)) : Ordered r'.root := by
  unfold readLine? at hline
  split at hline
  · cases hline
    exact h
  · split at hline
    · obtain ⟨root, hroot, heq⟩ := Option.map_eq_some_iff.1 hline
      cases heq
      exact ordered_of_within? (fun _ _ => ordered_of_openItem?) h hroot
    · cases hline
  · split at hline
    · obtain ⟨root, hroot, heq⟩ := Option.map_eq_some_iff.1 hline
      cases heq
      exact ordered_of_within? (fun _ _ => ordered_of_openTable?) h hroot
    · cases hline
  · cases hline
    exact h
  · cases hline
    exact h
  · cases hline
    exact h
  · split at hline
    · split at hline
      · rename_i v rest hread
        obtain ⟨root, hroot, heq⟩ := Option.map_eq_some_iff.1 hline
        cases heq
        have hv : v.Ordered := (ordered_of_read _).1 _ _ _ _ hread
        exact ordered_of_within? (fun _ _ hes => ordered_of_assign? hes hv) h hroot
      · cases hline
    · cases hline

theorem ordered_of_readDocument? {fuel : Nat} {r r' : Reading} (h : Ordered r.root)
    (hread : readDocument? fuel r cs = some r') : Ordered r'.root := by
  induction fuel generalizing r cs with
  | zero => cases hread
  | succ fuel ih =>
    rw [readDocument?] at hread
    split at hread
    · cases hread
    · rename_i line rest hline
      have hnext := ordered_of_readLine? h hline
      split at hread
      · cases hread
        exact hnext
      · split at hread
        · exact ih hnext hread
        · cases hread

/-- **The tables of a document have their keys in order.** -/
theorem ordered_of_parse? {text : String} {s : Setting} (h : parse? text = some s) : s.Ordered := by
  unfold parse? at h
  dsimp only at h
  obtain ⟨r, hread, rfl⟩ := Option.map_eq_some_iff.1 h
  exact ordered_of_readDocument? ordered_nil hread

end Toml

namespace Config

variable {s : Setting}

/-! ### Variables -/

theorem ordered_readPlain (cs : List Char) : (readPlain cs).Ordered := by
  refine ordered_of_not_table fun _ heq => ?_
  unfold readPlain at heq
  repeat' split at heq
  all_goals cases heq

/-- The induction is on the number of values that may be read, for values and for the entries of
tables at once. -/
theorem ordered_of_read (fuel : Nat) :
    (∀ cs s rest, readValue? fuel cs = some (s, rest) → s.Ordered) ∧
    ∀ acc cs es rest, (table acc).Ordered → readEntries? fuel acc cs = some (es, rest) →
      (table es).Ordered := by
  induction fuel with
  | zero =>
    refine ⟨fun cs s rest h => ?_, fun acc cs es rest hacc h => ?_⟩
    · rw [readValue?] at h
      cases h
    · rw [readEntries?] at h
      cases h
  | succ fuel ih =>
    obtain ⟨hvalue, hentries⟩ := ih
    refine ⟨fun cs s rest h => ?_, fun acc cs es rest hacc h => ?_⟩
    · rw [readValue?] at h
      obtain ⟨p, hparsed, heq⟩ := Option.map_eq_some_iff.1 h
      cases heq
      split at hparsed
      · cases hparsed
        exact ordered_of_not_table nofun
      · cases hparsed
        exact ordered_of_not_table nofun
      · obtain ⟨q, hread, heq⟩ := Option.map_eq_some_iff.1 hparsed
        cases heq
        exact hentries _ _ _ _ ordered_table_nil hread
      · obtain ⟨q, -, heq⟩ := Option.map_eq_some_iff.1 hparsed
        cases heq
        exact ordered_of_not_table nofun
      · obtain ⟨q, -, heq⟩ := Option.map_eq_some_iff.1 hparsed
        cases heq
        exact ordered_of_not_table nofun
      · cases hparsed
        exact ordered_of_not_table nofun
      · cases hparsed
      · cases hparsed
        exact ordered_readPlain _
    · unfold readEntries? at h
      split at h
      · cases h
        exact hacc
      · split at h
        · cases h
        · split at h
          · split at h
            · rename_i hread
              exact hentries _ _ _ _ (ordered_insert hacc (hvalue _ _ _ hread)) h
            · rename_i hread
              cases h
              exact ordered_insert hacc (hvalue _ _ _ hread)
            · cases h
          · cases h

/-- **The tables in the value of a variable have their keys in order.** -/
theorem ordered_readSetting (text : String) : (readSetting text).Ordered := by
  unfold readSetting
  dsimp only
  split
  · rename_i hread
    exact (ordered_of_read _).1 _ _ _ hread
  · exact ordered_of_not_table nofun

/-! ### Files -/

theorem ordered_of_ofFile {file : Option String} (h : ofFile file = .ok s) : s.Ordered := by
  unfold ofFile at h
  split at h
  · cases h
    exact ordered_table_nil
  · split at h
    · rename_i hparse
      cases h
      exact Toml.ordered_of_parse? hparse
    · cases h

end Config

end PrintClient
