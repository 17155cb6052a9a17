import PrintClient.Config.Reading
import PrintClient.Proofs.Config.Overlay

/-!
# What is read from a record

A record of settings is read field by field. Each field is what the reader of its kind gives for the
setting of the field, which stands under the key of the field or, if the record is written as a
list, at its position; or the default where there is no such setting. The other settings of the
record do not matter.

* `Reads`: a value is read from a setting, or it is the default;
* `Setting.field`: the setting of a field;
* `reads_of_readDefaults`, `reads_of_readProfile`, `reads_of_ofSetting`: the three records;
* `find?_of_readProfileTable`: a table of profiles;
* `readProfileEntries_of_reads`, `readEntries_of_reads`: a record whose fields can be read is read;
* `readProfileTable_insert`: one profile in place of another;
* `Within`, `exists_path_of_readEntries`: where the faults of a reading stand.
-/

namespace PrintClient.Config

variable {α β : Type} {s : Setting} {entries : Dict Setting} {key : String}

/-! ### Single fields -/

/-- The value is read from a setting; without a setting it is the default. -/
def Reads (read : Setting → Except Fault α) (default : Option α) (given : Option Setting) (a : α) :
    Prop :=
  match given with
  | some s => read s = .ok a
  | none => default = some a

theorem Reads.unique {read : Setting → Except Fault α} {default : Option α} {given : Option Setting}
    {a b : α} (ha : Reads read default given a) (hb : Reads read default given b) : a = b := by
  cases given with
  | none => exact Option.some_inj.1 (ha.symm.trans hb)
  | some s => exact Except.ok.inj (ha.symm.trans hb)

/-- The setting of a field: under its key, or at its position if the record is a list. -/
def Setting.field (index : Nat) (key : String) : Setting → Option Setting
  | .table entries => Dict.find? key entries
  | .list items => items[index]?
  | _ => none

theorem exists_of_bind {ε : Type} {x : Except ε α} {f : α → Except ε β} {b : β}
    (h : (x >>= f) = .ok b) : ∃ a, x = .ok a ∧ f a = .ok b := by
  cases x with
  | error e => cases h
  | ok a => exact ⟨a, rfl, h⟩

theorem ok_of_mapError {ε : Type} {x : Except Fault α} {f : Fault → ε} {a : α}
    (h : x.mapError f = .ok a) : x = .ok a := by
  cases x with
  | error fault => cases h
  | ok b =>
    cases h
    rfl

/-- The value of an entry, with what is read behind it. The errors of the value name its key. -/
theorem exists_of_entry {x : Except Fault α} {f : Fault → Fault} {next : α → Except Fault β} {b : β}
    (h : (x.mapError f >>= next) = .ok b) : ∃ a, x = .ok a ∧ next a = .ok b := by
  obtain ⟨a, hx, hnext⟩ := exists_of_bind h
  exact ⟨a, ok_of_mapError hx, hnext⟩

section Entries

variable {other : String} {read : Setting → Except Fault α} {default : Option α} {a b : α}

/-- A field that is read from an entry is not read again behind it. -/
theorem Reads.here (hsorted : Dict.Sorted ((key, s) :: entries)) (hread : read s = .ok b)
    (h : Reads read (some b) (Dict.find? key entries) a) :
    Reads read default (Dict.find? key ((key, s) :: entries)) a := by
  rw [Dict.find?_of_lt (List.pairwise_cons.1 hsorted).1] at h
  cases h
  rw [Dict.find?, if_pos rfl]
  exact hread

/-- An entry under another key does not matter. -/
theorem Reads.there (hne : key ≠ other) (h : Reads read default (Dict.find? other entries) a) :
    Reads read default (Dict.find? other ((key, s) :: entries)) a := by
  rw [Dict.find?, if_neg hne]
  exact h

/-- A field of a record in list form is the item at its position. -/
theorem reads_of_readItem {index : Nat} {items : List Setting} {missing : Except Fault α}
    (hmissing : ∀ a, missing = .ok a → default = some a)
    (h : readItem read missing index items = .ok a) : Reads read default items[index]? a := by
  unfold readItem at h
  cases hitem : items[index]? with
  | none =>
    rw [hitem] at h
    exact hmissing a h
  | some s =>
    rw [hitem] at h
    exact ok_of_mapError h

theorem some_of_ok (a : α) (h : (.ok b : Except Fault α) = .ok a) : some b = some a :=
  congrArg some (Except.ok.inj h)

end Entries

/-! ### The defaults -/

/-- The two times of the defaults. -/
structure ReadsDefaults (default : Defaults) (given : Nat → String → Option Setting)
    (d : Defaults) : Prop where
  requestTimeout : Reads readSeconds (some default.requestTimeout) (given 0 "request_timeout_secs")
    d.requestTimeout
  backoff : Reads readSecondsList (some default.backoff) (given 1 "backoff_secs") d.backoff

theorem reads_of_readDefaultsEntries {d d' : Defaults} (hsorted : Dict.Sorted entries)
    (h : readDefaultsEntries d entries = .ok d') :
    ReadsDefaults d (fun _ key => Dict.find? key entries) d' := by
  induction entries generalizing d with
  | nil =>
    cases h
    exact ⟨rfl, rfl⟩
  | cons p entries ih =>
    obtain ⟨key, s⟩ := p
    have hrest := List.Pairwise.of_cons hsorted
    rw [readDefaultsEntries] at h
    split at h
    · rename_i hkey
      subst hkey
      obtain ⟨backoff, hread, h⟩ := exists_of_entry h
      have hnext := ih hrest h
      exact ⟨hnext.requestTimeout.there (by decide),
        hnext.backoff.here hsorted hread⟩
    · split at h
      · rename_i hkey
        subst hkey
        obtain ⟨requestTimeout, hread, h⟩ := exists_of_entry h
        have hnext := ih hrest h
        exact ⟨hnext.requestTimeout.here hsorted hread,
          hnext.backoff.there (by decide)⟩
      · rename_i hbackoff htimeout
        have hnext := ih hrest h
        exact ⟨hnext.requestTimeout.there htimeout, hnext.backoff.there hbackoff⟩

/-- **The defaults are read field by field.** -/
theorem reads_of_readDefaults {d : Defaults} (hordered : s.Ordered) (h : readDefaults s = .ok d) :
    ReadsDefaults .builtin (fun index key => s.field index key) d := by
  unfold readDefaults at h
  split at h
  · exact reads_of_readDefaultsEntries hordered.sorted h
  · rw [readDefaultsItems] at h
    obtain ⟨requestTimeout, htimeout, h⟩ := exists_of_bind h
    obtain ⟨backoff, hbackoff, h⟩ := exists_of_bind h
    cases h
    exact ⟨reads_of_readItem some_of_ok htimeout, reads_of_readItem some_of_ok hbackoff⟩
  · cases h

theorem reads_of_reads_defaults {d : Defaults} {given : Option Setting}
    (hordered : ∀ s, given = some s → s.Ordered)
    (h : Reads readDefaults (some .builtin) given d) :
    ReadsDefaults .builtin (fun index key => given.bind (Setting.field index key)) d := by
  cases given with
  | none =>
    cases h
    exact ⟨rfl, rfl⟩
  | some s => exact reads_of_readDefaults (hordered s rfl) h

/-! ### Profiles -/

/-- A setting that need not be there. -/
def readOptional (read : Setting → Except Fault α) (s : Setting) : Except Fault (Option α) :=
  (read s).map some

/-- The fields of a profile. The host has no default. -/
structure ReadsProfile (default : Profile) (host : Option String)
    (given : Nat → String → Option Setting) (p : Profile) : Prop where
  host : Reads readText host (given 0 "host") p.host
  port : Reads readPort (some default.port) (given 1 "port") p.port
  apiKey : Reads (readOptional readText) (some default.apiKey) (given 2 "api_key") p.apiKey
  apiKeyEnv : Reads (readOptional readText) (some default.apiKeyEnv) (given 3 "api_key_env")
    p.apiKeyEnv
  requestTimeout : Reads (readOptional readSeconds) (some default.requestTimeout)
    (given 4 "request_timeout_secs") p.requestTimeout

theorem readOptional_of_ok {read : Setting → Except Fault α} {a : α} (h : read s = .ok a) :
    readOptional read s = .ok (some a) := by
  rw [readOptional, h]
  rfl

theorem Reads.optional {read : Setting → Except Fault α} {given : Option Setting} {a : α}
    (h : Reads read none given a) (default : Option α) :
    Reads (readOptional read) (some default) given (some a) := by
  cases given with
  | none => cases h
  | some s => exact readOptional_of_ok h

theorem reads_of_readProfileEntries {p p' : Profile} {hosted : Bool}
    (hsorted : Dict.Sorted entries) (h : readProfileEntries hosted p entries = .ok p') :
    ReadsProfile p (if hosted then some p.host else none) (fun _ key => Dict.find? key entries)
      p' := by
  induction entries generalizing p hosted with
  | nil =>
    rw [readProfileEntries] at h
    split at h
    · rename_i hhosted
      cases h
      exact ⟨if_pos hhosted, rfl, rfl, rfl, rfl⟩
    · cases h
  | cons q entries ih =>
    obtain ⟨key, s⟩ := q
    have hrest := List.Pairwise.of_cons hsorted
    rw [readProfileEntries] at h
    split at h
    · rename_i hkey
      subst hkey
      obtain ⟨apiKey, hread, h⟩ := exists_of_entry h
      have hnext := ih hrest h
      exact ⟨hnext.host.there (by decide), hnext.port.there (by decide),
        hnext.apiKey.here hsorted (readOptional_of_ok hread),
        hnext.apiKeyEnv.there (by decide), hnext.requestTimeout.there (by decide)⟩
    · split at h
      · rename_i hkey
        subst hkey
        obtain ⟨apiKeyEnv, hread, h⟩ := exists_of_entry h
        have hnext := ih hrest h
        exact ⟨hnext.host.there (by decide), hnext.port.there (by decide),
          hnext.apiKey.there (by decide),
          hnext.apiKeyEnv.here hsorted (readOptional_of_ok hread),
          hnext.requestTimeout.there (by decide)⟩
      · split at h
        · rename_i hkey
          subst hkey
          obtain ⟨host, hread, h⟩ := exists_of_entry h
          have hnext := ih hrest h
          exact ⟨hnext.host.here hsorted hread, hnext.port.there (by decide),
            hnext.apiKey.there (by decide), hnext.apiKeyEnv.there (by decide),
            hnext.requestTimeout.there (by decide)⟩
        · split at h
          · rename_i hkey
            subst hkey
            obtain ⟨port, hread, h⟩ := exists_of_entry h
            have hnext := ih hrest h
            exact ⟨hnext.host.there (by decide), hnext.port.here hsorted hread,
              hnext.apiKey.there (by decide), hnext.apiKeyEnv.there (by decide),
              hnext.requestTimeout.there (by decide)⟩
          · split at h
            · rename_i hkey
              subst hkey
              obtain ⟨requestTimeout, hread, h⟩ := exists_of_entry h
              have hnext := ih hrest h
              exact ⟨hnext.host.there (by decide), hnext.port.there (by decide),
                hnext.apiKey.there (by decide), hnext.apiKeyEnv.there (by decide),
                hnext.requestTimeout.here hsorted (readOptional_of_ok hread)⟩
            · rename_i hapiKey hapiKeyEnv hhost hport htimeout
              have hnext := ih hrest h
              exact ⟨hnext.host.there hhost, hnext.port.there hport, hnext.apiKey.there hapiKey,
                hnext.apiKeyEnv.there hapiKeyEnv, hnext.requestTimeout.there htimeout⟩

/-- **A profile is read field by field.** -/
theorem reads_of_readProfile {p : Profile} (hordered : s.Ordered) (h : readProfile s = .ok p) :
    ReadsProfile (.ofHost "") none (fun index key => s.field index key) p := by
  unfold readProfile at h
  split at h
  · exact reads_of_readProfileEntries hordered.sorted h
  · rw [readProfileItems] at h
    obtain ⟨host, hhost, h⟩ := exists_of_bind h
    obtain ⟨port, hport, h⟩ := exists_of_bind h
    obtain ⟨apiKey, hapiKey, h⟩ := exists_of_bind h
    obtain ⟨apiKeyEnv, hapiKeyEnv, h⟩ := exists_of_bind h
    obtain ⟨requestTimeout, htimeout, h⟩ := exists_of_bind h
    cases h
    have hmissing {γ : Type} {fault : Fault} (a : γ) (h : (.error fault : Except Fault γ) = .ok a) :
        none = some a := by
      cases h
    exact ⟨reads_of_readItem hmissing hhost, reads_of_readItem some_of_ok hport,
      (reads_of_readItem hmissing hapiKey).optional none,
      (reads_of_readItem hmissing hapiKeyEnv).optional none,
      (reads_of_readItem hmissing htimeout).optional none⟩
  · cases h

/-! ### Tables of profiles, and the configuration -/

/-- The profiles of a table are those of its entries. -/
theorem find?_of_readProfileTable {ps : Dict Profile} (h : readProfileTable entries = .ok ps)
    (name : String) :
    match Dict.find? name entries with
    | some s => ∃ p, Dict.find? name ps = some p ∧ readProfile s = .ok p
    | none => Dict.find? name ps = none := by
  induction entries generalizing ps with
  | nil =>
    cases h
    rfl
  | cons q entries ih =>
    obtain ⟨key, s⟩ := q
    rw [readProfileTable] at h
    obtain ⟨p, hread, h⟩ := exists_of_entry h
    obtain ⟨ps, hrest, h⟩ := exists_of_bind h
    cases h
    rw [Dict.find?, Dict.find?]
    by_cases hkey : key = name
    · rw [if_pos hkey, if_pos hkey]
      exact ⟨p, rfl, hread⟩
    · rw [if_neg hkey, if_neg hkey]
      exact ih hrest

theorem find?_of_reads_profiles {ps : Dict Profile} {given : Option Setting}
    (h : Reads readProfiles (some []) given ps) (name : String) :
    match given.bind (Setting.at? [name]) with
    | some s => ∃ p, Dict.find? name ps = some p ∧ readProfile s = .ok p
    | none => Dict.find? name ps = none := by
  cases given with
  | none =>
    cases h
    rfl
  | some s =>
    obtain ⟨entries, rfl⟩ | hother := Setting.table_or_not s
    · rw [Option.bind_some, ← List.nil_append [name], Setting.at?_concat rfl]
      exact find?_of_readProfileTable h name
    · cases s <;> first | cases h | exact absurd rfl (hother _)

/-- The parts of a configuration. -/
structure ReadsConfig (default : Config) (given : String → Option Setting) (c : Config) : Prop where
  defaultProfile : Reads readText (some default.defaultProfile) (given "default_profile")
    c.defaultProfile
  defaults : Reads readDefaults (some default.defaults) (given "defaults") c.defaults
  profiles : Reads readProfiles (some default.profiles) (given "profiles") c.profiles

theorem reads_of_readEntries {c c' : Config} (hsorted : Dict.Sorted entries)
    (h : readEntries c entries = .ok c') :
    ReadsConfig c (fun key => Dict.find? key entries) c' := by
  induction entries generalizing c with
  | nil =>
    cases h
    exact ⟨rfl, rfl, rfl⟩
  | cons p entries ih =>
    obtain ⟨key, s⟩ := p
    have hrest := List.Pairwise.of_cons hsorted
    rw [readEntries] at h
    split at h
    · rename_i hkey
      subst hkey
      obtain ⟨defaultProfile, hread, h⟩ := exists_of_entry h
      have hnext := ih hrest h
      exact ⟨hnext.defaultProfile.here hsorted hread,
        hnext.defaults.there (by decide), hnext.profiles.there (by decide)⟩
    · split at h
      · rename_i hkey
        subst hkey
        obtain ⟨defaults, hread, h⟩ := exists_of_entry h
        have hnext := ih hrest h
        exact ⟨hnext.defaultProfile.there (by decide),
          hnext.defaults.here hsorted hread, hnext.profiles.there (by decide)⟩
      · split at h
        · rename_i hkey
          subst hkey
          obtain ⟨profiles, hread, h⟩ := exists_of_entry h
          have hnext := ih hrest h
          exact ⟨hnext.defaultProfile.there (by decide), hnext.defaults.there (by decide),
            hnext.profiles.here hsorted hread⟩
        · rename_i hdefault hdefaults hprofiles
          have hnext := ih hrest h
          exact ⟨hnext.defaultProfile.there hdefault, hnext.defaults.there hdefaults,
            hnext.profiles.there hprofiles⟩

/-- **A configuration is read part by part.** -/
theorem reads_of_ofSetting {c : Config} (hordered : s.Ordered) (h : ofSetting s = .ok c) :
    ReadsConfig .builtin (fun key => s.at? [key]) c := by
  unfold ofSetting at h
  split at h
  · rename_i entries
    have hreads := reads_of_readEntries hordered.sorted h
    have hat (key : String) : (Setting.table entries).at? [key] = Dict.find? key entries :=
      Setting.at?_concat (Setting.at?_nil _) key
    simpa only [hat] using hreads
  · cases h

/-! ### Records from their fields -/

section Fields

variable {other : String} {read : Setting → Except Fault α} {default : Option α} {a : α}

/-- The first entry of a record is read for its own key. -/
theorem Reads.head (h : Reads read default (Dict.find? key ((key, s) :: entries)) a) :
    read s = .ok a := by
  rwa [Dict.find?, if_pos rfl] at h

/-- For any other key it is passed over. -/
theorem Reads.tail (hne : key ≠ other)
    (h : Reads read default (Dict.find? other ((key, s) :: entries)) a) :
    Reads read default (Dict.find? other entries) a := by
  rwa [Dict.find?, if_neg hne] at h

/-- Behind the entry of a key there is no other one. -/
theorem reads_behind (hsorted : Dict.Sorted ((key, s) :: entries)) (a : α) :
    Reads read (some a) (Dict.find? key entries) a := by
  rw [Dict.find?_of_lt (List.pairwise_cons.1 hsorted).1]
  rfl

theorem exists_of_readOptional {b : Option α} (h : readOptional read s = .ok b) :
    ∃ a, read s = .ok a ∧ b = some a := by
  unfold readOptional at h
  cases hread : read s with
  | error fault =>
    rw [hread] at h
    cases h
  | ok a =>
    rw [hread] at h
    cases h
    exact ⟨a, rfl, rfl⟩

end Fields

theorem readProfileEntries_of_reads {p p' : Profile} {hosted : Bool}
    (hsorted : Dict.Sorted entries)
    (h : ReadsProfile p (if hosted then some p.host else none)
      (fun _ key => Dict.find? key entries) p') :
    readProfileEntries hosted p entries = .ok p' := by
  induction entries generalizing p hosted with
  | nil =>
    obtain ⟨hhost, hport, hkey, hsource, htimeout⟩ := h
    cases hosted with
    | false => cases hhost
    | true =>
      cases p
      cases p'
      cases hhost
      cases hport
      cases hkey
      cases hsource
      cases htimeout
      rfl
  | cons q entries ih =>
    obtain ⟨key, s⟩ := q
    have hrest := List.Pairwise.of_cons hsorted
    obtain ⟨hhost, hport, hkey, hsource, htimeout⟩ := h
    unfold readProfileEntries
    split_ifs with h₁ h₂ h₃ h₄ h₅
    · subst h₁
      obtain ⟨a, hread, ha⟩ := exists_of_readOptional hkey.head
      rw [hread]
      refine ih hrest ⟨hhost.tail (by decide), hport.tail (by decide), ?_,
        hsource.tail (by decide), htimeout.tail (by decide)⟩
      rw [ha]
      exact reads_behind hsorted _
    · subst h₂
      obtain ⟨a, hread, ha⟩ := exists_of_readOptional hsource.head
      rw [hread]
      refine ih hrest ⟨hhost.tail (by decide), hport.tail (by decide), hkey.tail (by decide), ?_,
        htimeout.tail (by decide)⟩
      rw [ha]
      exact reads_behind hsorted _
    · subst h₃
      rw [hhost.head]
      exact ih hrest ⟨reads_behind hsorted _, hport.tail (by decide), hkey.tail (by decide),
        hsource.tail (by decide), htimeout.tail (by decide)⟩
    · subst h₄
      rw [hport.head]
      exact ih hrest ⟨hhost.tail (by decide), reads_behind hsorted _, hkey.tail (by decide),
        hsource.tail (by decide), htimeout.tail (by decide)⟩
    · subst h₅
      obtain ⟨a, hread, ha⟩ := exists_of_readOptional htimeout.head
      rw [hread]
      refine ih hrest ⟨hhost.tail (by decide), hport.tail (by decide), hkey.tail (by decide),
        hsource.tail (by decide), ?_⟩
      rw [ha]
      exact reads_behind hsorted _
    · exact ih hrest ⟨hhost.tail h₃, hport.tail h₄, hkey.tail h₁, hsource.tail h₂,
        htimeout.tail h₅⟩

/-- The profiles of a table with another setting in place of one. -/
theorem readProfileTable_insert {ps : Dict Profile} {p : Profile}
    (h : readProfileTable entries = .ok ps) (hread : readProfile s = .ok p) (name : String) :
    readProfileTable (Dict.insert name s entries) = .ok (Dict.insert name p ps) := by
  induction entries generalizing ps with
  | nil =>
    cases h
    simp [Dict.insert, readProfileTable, hread, Except.mapError]
    rfl
  | cons q entries ih =>
    obtain ⟨k, t⟩ := q
    have htable := h
    rw [readProfileTable] at h
    obtain ⟨p', hread', h⟩ := exists_of_entry h
    obtain ⟨ps', hrest, h⟩ := exists_of_bind h
    cases h
    unfold Dict.insert
    split_ifs with hkey hlt
    · rw [readProfileTable, hread, hrest]
      rfl
    · rw [readProfileTable, hread, htable]
      rfl
    · rw [readProfileTable, hread', ih hrest]
      rfl

theorem readEntries_of_reads {c c' : Config} (hsorted : Dict.Sorted entries)
    (h : ReadsConfig c (fun key => Dict.find? key entries) c') :
    readEntries c entries = .ok c' := by
  induction entries generalizing c with
  | nil =>
    obtain ⟨hname, hdefaults, hprofiles⟩ := h
    cases c
    cases c'
    cases hname
    cases hdefaults
    cases hprofiles
    rfl
  | cons q entries ih =>
    obtain ⟨key, s⟩ := q
    have hrest := List.Pairwise.of_cons hsorted
    obtain ⟨hname, hdefaults, hprofiles⟩ := h
    unfold readEntries
    split_ifs with h₁ h₂ h₃
    · subst h₁
      rw [hname.head]
      exact ih hrest ⟨reads_behind hsorted _, hdefaults.tail (by decide),
        hprofiles.tail (by decide)⟩
    · subst h₂
      rw [hdefaults.head]
      exact ih hrest ⟨hname.tail (by decide), reads_behind hsorted _,
        hprofiles.tail (by decide)⟩
    · subst h₃
      rw [hprofiles.head]
      exact ih hrest ⟨hname.tail (by decide), hdefaults.tail (by decide), reads_behind hsorted _⟩
    · exact ih hrest ⟨hname.tail h₁, hdefaults.tail h₂, hprofiles.tail h₃⟩

/-! ### Where faults stand -/

/-- The faults of a reading stand at most so many keys deep. -/
def Within (depth : Nat) (x : Except Fault α) : Prop :=
  ∀ fault, x = .error fault → fault.path.length ≤ depth

section Within

variable {depth : Nat} {x : Except Fault α} {f : α → Except Fault β}

theorem within_ok (a : α) : Within depth (.ok a : Except Fault α) := by
  intro fault h
  cases h

theorem within_here (defect : Defect) : Within depth (.error ⟨[], defect⟩ : Except Fault α) := by
  rintro _ ⟨⟩
  exact Nat.zero_le _

theorem Within.bind (hx : Within depth x) (hf : ∀ a, Within depth (f a)) :
    Within depth (x >>= f) := by
  cases x with
  | error fault =>
    rintro _ ⟨⟩
    exact hx fault rfl
  | ok a => exact hf a

/-- Seen from the table that holds a setting, its faults stand one key deeper. -/
theorem Within.under (hx : Within depth x) (key : String) :
    Within (depth + 1) (x.mapError (Fault.under key)) := by
  cases x with
  | error fault =>
    rintro _ ⟨⟩
    exact Nat.succ_le_succ (hx fault rfl)
  | ok a => exact within_ok a

theorem within_readText (s : Setting) : Within 0 (readText s) := by
  unfold readText
  split
  · exact within_ok _
  · exact within_here _

theorem within_readWord (bound : Nat) (wanted : Wanted) (s : Setting) :
    Within 0 (readWord bound wanted s) := by
  unfold readWord
  repeat' split
  all_goals first | exact within_ok _ | exact within_here _

theorem within_readPort (s : Setting) : Within 0 (readPort s) := by
  unfold readPort
  have h := within_readWord UInt16.size .word16 s
  cases hread : readWord UInt16.size .word16 s with
  | error fault =>
    rintro _ ⟨⟩
    exact h fault hread
  | ok n => exact within_ok _

theorem within_readSecondsFrom (index : Nat) (items : List Setting) :
    Within 1 (readSecondsFrom index items) := by
  induction items generalizing index with
  | nil => exact within_ok _
  | cons s items ih =>
    exact ((within_readWord _ _ s).under _).bind fun n =>
      (ih (index + 1)).bind fun ns => within_ok _

theorem within_readSecondsList (s : Setting) : Within 1 (readSecondsList s) := by
  unfold readSecondsList
  split
  · exact within_readSecondsFrom 0 _
  · exact within_here _

theorem within_readItem {read : Setting → Except Fault α} {missing : Except Fault α}
    (hread : ∀ s, Within depth (read s)) (hmissing : Within (depth + 1) missing) (index : Nat)
    (items : List Setting) : Within (depth + 1) (readItem read missing index items) := by
  unfold readItem
  split
  · exact (hread _).under _
  · exact hmissing

theorem within_readDefaultsEntries (d : Defaults) (entries : Dict Setting) :
    Within 2 (readDefaultsEntries d entries) := by
  induction entries generalizing d with
  | nil => exact within_ok _
  | cons e entries ih =>
    unfold readDefaultsEntries
    split_ifs
    · exact ((within_readSecondsList _).under _).bind fun backoff => ih _
    · refine Within.bind (fun fault hfault => ?_) fun seconds => ih _
      exact Nat.le_succ_of_le ((within_readWord _ _ e.2).under _ fault hfault)
    · exact ih d

theorem within_readDefaults (s : Setting) : Within 2 (readDefaults s) := by
  cases s with
  | table entries => exact within_readDefaultsEntries .builtin entries
  | list items =>
    refine Within.bind (fun fault hfault => ?_) fun seconds =>
      (within_readItem within_readSecondsList (within_ok _) 1 items).bind fun backoff => within_ok _
    exact Nat.le_succ_of_le
      (within_readItem (within_readWord _ _) (within_ok _) 0 items fault hfault)
  | _ => exact within_here _

theorem within_readProfileEntries (hosted : Bool) (p : Profile) (entries : Dict Setting) :
    Within 1 (readProfileEntries hosted p entries) := by
  induction entries generalizing hosted p with
  | nil =>
    cases hosted
    · exact within_here _
    · exact within_ok _
  | cons e entries ih =>
    unfold readProfileEntries
    split_ifs
    · exact ((within_readText _).under _).bind fun apiKey => ih _ _
    · exact ((within_readText _).under _).bind fun apiKeyEnv => ih _ _
    · exact ((within_readText _).under _).bind fun host => ih _ _
    · exact ((within_readPort _).under _).bind fun port => ih _ _
    · exact ((within_readWord _ _ _).under _).bind fun seconds => ih _ _
    · exact ih hosted p

theorem within_readProfile (s : Setting) : Within 1 (readProfile s) := by
  cases s with
  | table entries => exact within_readProfileEntries false (.ofHost "") entries
  | list items =>
    exact (within_readItem within_readText (within_here _) 0 items).bind fun host =>
      (within_readItem within_readPort (within_ok _) 1 items).bind fun port =>
      (within_readItem within_readText (within_here _) 2 items).bind fun apiKey =>
      (within_readItem within_readText (within_here _) 3 items).bind fun apiKeyEnv =>
      (within_readItem (within_readWord _ _) (within_here _) 4 items).bind fun seconds =>
      within_ok _
  | _ => exact within_here _

theorem within_readProfileTable (entries : Dict Setting) :
    Within 2 (readProfileTable entries) := by
  induction entries with
  | nil => exact within_ok _
  | cons e entries ih =>
    exact ((within_readProfile _).under _).bind fun p => ih.bind fun ps => within_ok _

theorem within_readProfiles (s : Setting) : Within 2 (readProfiles s) := by
  cases s with
  | table entries => exact within_readProfileTable entries
  | _ => exact within_here _

/-- An error of an entry names its key; or else it is one of what is read behind it. -/
theorem exists_of_entry_error {next : α → Except Fault β} {fault : Fault}
    (h : (x.mapError (Fault.under key) >>= next) = .error fault) :
    (∃ f, x = .error f ∧ fault.path = key :: f.path) ∨ ∃ a, next a = .error fault := by
  cases x with
  | error f =>
    cases h
    exact .inl ⟨f, rfl, rfl⟩
  | ok a => exact .inr ⟨a, h⟩

/-- **A fault of a configuration stands under one of the three keys that are read**, and no deeper
than the fields of profiles and the items of lists. -/
theorem exists_path_of_readEntries {c : Config} {fault : Fault}
    (h : readEntries c entries = .error fault) :
    ∃ key ∈ ["default_profile", "defaults", "profiles"], ∃ path,
      fault.path = key :: path ∧ path.length ≤ 2 := by
  induction entries generalizing c with
  | nil => cases h
  | cons e entries ih =>
    obtain ⟨key, s⟩ := e
    rw [readEntries] at h
    split_ifs at h with h₁ h₂ h₃
    · obtain ⟨f, hf, hpath⟩ | ⟨_, h⟩ := exists_of_entry_error h
      · exact ⟨key, by simp [h₁], f.path, hpath, Nat.le_trans (within_readText s f hf) (by decide)⟩
      · exact ih h
    · obtain ⟨f, hf, hpath⟩ | ⟨_, h⟩ := exists_of_entry_error h
      · exact ⟨key, by simp [h₂], f.path, hpath, within_readDefaults s f hf⟩
      · exact ih h
    · obtain ⟨f, hf, hpath⟩ | ⟨_, h⟩ := exists_of_entry_error h
      · exact ⟨key, by simp [h₃], f.path, hpath, within_readProfiles s f hf⟩
      · exact ih h
    · exact ih h

end Within

end PrintClient.Config
