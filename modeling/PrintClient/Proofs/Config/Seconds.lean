import PrintClient.Proofs.Config.TextKeys
import PrintClient.Proofs.Json.Numerals
import PrintClient.Proofs.Session.Additions

/-!
# Seconds of a configuration

A configuration tells times in seconds, and any number that fits 64 bits will do. What a session
adds to the time comes of these numbers, and not all of them leave the sum among the points in time.

* `secondsOf`: the times that a session under a profile keeps to;
* `forall_lt_of_load`: they fit 64 bits;
* `load_secondsVariables`: and a variable may tell any number that does;
* `configured_additions_stay_iff`: the configurations under which every addition of every run stays
  in range.
-/

namespace PrintClient.Config

open Session (Setup additions)
open Session.World (run)

variable {s : Setting} {c : Config} {text : Option String} {env : Environment} {name : String}

/-! ### What is read as a number of seconds -/

theorem lt_of_readWord {bound n : Nat} {wanted : Wanted} (h : readWord bound wanted s = .ok n) :
    n < bound := by
  unfold readWord at h
  split at h
  · split at h
    · rename_i hbounds
      cases h
      omega
    · cases h
  · split at h
    · rename_i hlt
      cases h
      exact hlt
    · cases h
  · cases h

theorem forall_lt_of_readSecondsFrom {items : List Setting} {index : Nat} {ns : List Nat}
    (h : readSecondsFrom index items = .ok ns) : ∀ n ∈ ns, n < UInt64.size := by
  induction items generalizing index ns with
  | nil =>
    cases h
    exact fun n hn => (List.not_mem_nil hn).elim
  | cons s items ih =>
    obtain ⟨n, hread, h⟩ := exists_of_entry h
    obtain ⟨rest, hrest, h⟩ := exists_of_bind h
    cases h
    exact List.forall_mem_cons.2 ⟨lt_of_readWord hread, ih hrest⟩

theorem forall_lt_of_readSecondsList {ns : List Nat} (h : readSecondsList s = .ok ns) :
    ∀ n ∈ ns, n < UInt64.size := by
  unfold readSecondsList at h
  split at h
  · exact forall_lt_of_readSecondsFrom h
  · cases h

/-- What is read has a property that all values of its reader have, and the default. -/
theorem Reads.forall {α : Type} {read : Setting → Except Fault α} {default a : α}
    {given : Option Setting} {P : α → Prop} (h : Reads read (some default) given a)
    (hread : ∀ s a, read s = .ok a → P a) (hdefault : P default) : P a := by
  cases given with
  | none =>
    cases h
    exact hdefault
  | some s => exact hread s a h

/-- The times that a session under a profile keeps to: that for a response, and the delays. -/
def secondsOf (d : Defaults) (p : Profile) : List Nat :=
  p.requestTimeout.getD d.requestTimeout :: d.backoff

/-- **All the times of a configuration fit 64 bits.** -/
theorem forall_lt_of_load {p : Profile} (hload : load text env = .ok c)
    (hp : Dict.find? name c.profiles = some p) : ∀ n ∈ secondsOf c.defaults p, n < UInt64.size := by
  obtain ⟨file, hfile, hread⟩ := exists_of_load hload
  have hordered := ordered_merged (ordered_of_ofFile hfile) env
  have hreads := reads_of_ofSetting hordered hread
  have hdefaults := reads_of_reads_defaults (fun s hs => hordered.at? hs) hreads.defaults
  have htimeout : c.defaults.requestTimeout < UInt64.size :=
    hdefaults.requestTimeout.forall (P := (· < UInt64.size)) (fun _ _ h => lt_of_readWord h)
      (by decide)
  have hbackoff : ∀ n ∈ c.defaults.backoff, n < UInt64.size :=
    hdefaults.backoff.forall (P := fun ns => ∀ n ∈ ns, n < UInt64.size)
      (fun _ _ h => forall_lt_of_readSecondsList h) (by decide)
  have hown : ∀ n, p.requestTimeout = some n → n < UInt64.size := by
    have hentry := find?_of_reads_profiles hreads.profiles name
    cases hgiven : ((merged file env).at? ["profiles"]).bind (Setting.at? [name]) with
    | none =>
      rw [hgiven] at hentry
      rw [hentry] at hp
      cases hp
    | some s =>
      rw [hgiven] at hentry
      obtain ⟨p', hp', hprofile⟩ := hentry
      cases hp.symm.trans hp'
      obtain ⟨profiles, hprofiles, hs⟩ := Option.bind_eq_some_iff.1 hgiven
      have hfields := reads_of_readProfile ((hordered.at? hprofiles).at? hs) hprofile
      refine hfields.requestTimeout.forall (P := fun t => ∀ n, t = some n → n < UInt64.size) ?_
        nofun
      rintro s t ht n rfl
      obtain ⟨m, hm, hsome⟩ := exists_of_readOptional ht
      cases hsome
      exact lt_of_readWord hm
  refine List.forall_mem_cons.2 ⟨?_, hbackoff⟩
  cases ht : p.requestTimeout with
  | none => exact htimeout
  | some n => exact hown n ht

/-! ### Numbers from a variable -/

/-- A number in its digits is read as a number. -/
theorem readSetting_toString {n : Nat} (hn : n < UInt64.size) :
    readSetting (toString n) = .unsigned n := by
  have hlist : (toString n).toList = Nat.toDigits 10 n := by
    simp [Nat.repr_eq_ofList_toDigits]
  obtain ⟨hne, hdigits⟩ := Json.isDigits_toDigits n
  have halnum : AreAlphanumeric (toString n).toList := by
    rw [hlist]
    intro c hc
    simp [Char.isAlphanum, hdigits c hc]
  have hvalue : Binary64.digitsValue (toString n).toList = n := by
    rw [hlist]
    exact Json.digitsValue_toDigits n
  have hall : (toString n).toList.all Char.isDigit = true := by
    rw [hlist]
    exact List.all_eq_true.2 hdigits
  have hne' {word : String} (hword : word.toList.all Char.isDigit = false ∨ word.toList = []) :
      toString n ≠ word := by
    rintro rfl
    rcases hword with hword | hword
    · rw [hall] at hword
      cases hword
    · exact hne (hlist.symm.trans hword)
  rw [readSetting_of_areAlphanumeric halnum (hne' (.inr rfl)), if_neg (hne' (.inl (by decide))),
    if_neg (hne' (.inl (by decide))), if_pos ⟨hall, by rw [hvalue]; exact hn⟩, hvalue]

/-- A host, and a time for responses. -/
def secondsVariables (n : Nat) : Environment :=
  [("REPLINK_DEFAULTS__REQUEST_TIMEOUT_SECS", toString n), ("REPLINK_PROFILES__P__HOST", "h")]

/-- What they make. -/
def secondsConfig (n : Nat) : Config :=
  ⟨"default", ⟨n, Defaults.builtin.backoff⟩, [("p", .ofHost "h")]⟩

/-- The settings that it is read from. -/
def secondsEntries (n : Nat) : Dict Setting :=
  [("default_profile", .text "default"),
    ("defaults", .table [("backoff_secs", .list (Defaults.builtin.backoff.map .unsigned)),
      ("request_timeout_secs", .unsigned n)]),
    ("profiles", .table [("p", .table [("host", .text "h")])])]

theorem merged_secondsVariables {n : Nat} (hn : n < UInt64.size) :
    merged (.table []) (secondsVariables n) = .table (secondsEntries n) := by
  have htimeout : settingPath? "REPLINK_DEFAULTS__REQUEST_TIMEOUT_SECS" =
      some ["defaults", "request_timeout_secs"] := by
    decide
  have hhost : settingPath? "REPLINK_PROFILES__P__HOST" = some ["profiles", "p", "host"] := by
    decide
  have hname : readSetting "h" = .text "h" := by rfl
  simp only [merged, secondsVariables, ofEnvironment, List.foldl_cons, List.foldl_nil, ofVariable,
    htimeout, hhost, hname, readSetting_toString hn]
  rfl

theorem readDefaults_seconds {n : Nat} (hn : n < UInt64.size) :
    readDefaults (.table [("backoff_secs", .list (Defaults.builtin.backoff.map .unsigned)),
      ("request_timeout_secs", .unsigned n)]) = .ok ⟨n, Defaults.builtin.backoff⟩ := by
  have hbackoff : readSecondsList (.list (Defaults.builtin.backoff.map .unsigned)) =
      .ok Defaults.builtin.backoff := by
    rfl
  have htimeout : readSeconds (.unsigned n) = .ok n := by
    rw [readSeconds, readWord, if_pos hn]
  rw [readDefaults, readDefaultsEntries, if_pos rfl, hbackoff]
  show readDefaultsEntries .builtin [("request_timeout_secs", .unsigned n)] = _
  rw [readDefaultsEntries, if_neg (by decide), if_pos rfl, htimeout]
  rfl

/-- **A variable may tell any number of seconds that fits 64 bits.** -/
theorem load_secondsVariables {n : Nat} (hn : n < UInt64.size) :
    load none (secondsVariables n) = .ok (secondsConfig n) := by
  have hload := load_eq (show ofFile none = .ok (.table []) from rfl) (secondsVariables n)
  have hordered := ordered_merged Setting.ordered_table_nil (secondsVariables n)
  rw [merged_secondsVariables hn] at hload hordered
  have hprofiles : readProfiles (.table [("p", .table [("host", .text "h")])]) =
      .ok [("p", .ofHost "h")] := by
    rfl
  have hread : ofSetting (.table (secondsEntries n)) = .ok (secondsConfig n) :=
    readEntries_of_reads (c := .builtin) hordered.sorted ⟨rfl, readDefaults_seconds hn, hprofiles⟩
  rw [hload, hread]
  rfl

/-! ### The additions of sessions -/

variable {H : Type}

/-- The additions of all sessions under a profile stay in range if its times keep within what a
clock can show. -/
theorem additions_of_session_stay_iff {d : Defaults} {p : Profile} {setup : Setup H}
    (hsettings : setup.settings = d.session (some p)) :
    (∀ base acts, ∀ a ∈ additions setup.settings.requestTimeout (run setup acts).trace,
      StaysInRange base a) ↔
    KeepsWithin clockSeconds (p.requestTimeout.getD d.requestTimeout) d.backoff := by
  have hseconds : d.session (some p) =
      ⟨max (p.requestTimeout.getD d.requestTimeout) 1 * 1000, d.backoff.map (· * 1000)⟩ := rfl
  rw [Session.World.additions_stay_iff, hsettings, hseconds, keepsWithin_mul_iff (by decide)]
  have hmax : max (p.requestTimeout.getD d.requestTimeout) 1 ≤ clockSeconds ↔
      p.requestTimeout.getD d.requestTimeout ≤ clockSeconds := by
    have hpos : 1 ≤ clockSeconds := by decide
    omega
  exact ⟨fun h => ⟨hmax.1 h.timeout, h.delays⟩, fun h => ⟨hmax.2 h.timeout, h.delays⟩⟩

/-- **Under a profile of a configuration every addition to the time stays in range, in every run of
every session and whenever it starts, exactly if the time for a response is no more than a clock can
show and no delay is that can come up before so much has been waited for.** Sessions and their
connections wait for nothing but what comes of such an addition. All the times fit 64 bits, and a
variable may tell any that does, so a configuration need not keep within the range. -/
theorem configured_additions_stay_iff {p : Profile} (hload : load text env = .ok c)
    (hp : Dict.find? name c.profiles = some p) (setup : Setup H)
    (hsettings : setup.settings = c.defaults.session (some p)) :
    (∀ acts time, (run setup acts).WaitsUntil time →
      ∃ a ∈ additions setup.settings.requestTimeout (run setup acts).trace, a.1 + a.2 = time) ∧
    ((∀ base acts, ∀ a ∈ additions setup.settings.requestTimeout (run setup acts).trace,
        StaysInRange base a) ↔
      KeepsWithin clockSeconds (p.requestTimeout.getD c.defaults.requestTimeout)
        c.defaults.backoff) ∧
    (∀ n ∈ secondsOf c.defaults p, n < UInt64.size) ∧
    ∀ n < UInt64.size, ∃ c' p', load none (secondsVariables n) = .ok c' ∧
      Dict.find? "p" c'.profiles = some p' ∧
      p'.requestTimeout.getD c'.defaults.requestTimeout = n :=
  ⟨fun _ _ => Session.World.exists_of_waitsUntil, additions_of_session_stay_iff hsettings,
    forall_lt_of_load hload hp, fun n hn =>
      ⟨secondsConfig n, .ofHost "h", load_secondsVariables hn, rfl, rfl⟩⟩

/-- A session with nothing but its times. -/
def timedSetup (settings : SessionSettings) : Setup Nat :=
  ⟨⟨"h", defaultPort, "key"⟩, settings, [], [], []⟩

/-- With the built-in times all is well, but not when a response may take a second more than a clock
can show. -/
theorem configured_additions_stay_of_host :
    (load (some hostFile) [] = .ok hostConfig ∧
      ∀ base acts, ∀ a ∈ additions 5000
        (run (timedSetup (hostConfig.defaults.session (some (.ofHost "h")))) acts).trace,
        StaysInRange base a) ∧
    load none (secondsVariables (clockSeconds + 1)) = .ok (secondsConfig (clockSeconds + 1)) ∧
      ¬ ∀ base acts, ∀ a ∈ additions ((clockSeconds + 1) * 1000)
        (run (timedSetup ((secondsConfig (clockSeconds + 1)).defaults.session
          (some (.ofHost "h")))) acts).trace, StaysInRange base a := by
  have hload : load (some hostFile) [] = .ok hostConfig := ok_of_toOption (by decide +kernel)
  have hlarge := load_secondsVariables (n := clockSeconds + 1) (by decide)
  have hhost : Dict.find? "p" hostConfig.profiles = some (.ofHost "h") := rfl
  obtain ⟨-, hstay, -⟩ := configured_additions_stay_iff hload hhost
    (timedSetup (hostConfig.defaults.session (some (.ofHost "h")))) rfl
  obtain ⟨-, hleave, -⟩ := configured_additions_stay_iff hlarge hhost
    (timedSetup ((secondsConfig (clockSeconds + 1)).defaults.session (some (.ofHost "h")))) rfl
  refine ⟨⟨hload, hstay.2 (keepsWithin_of_forall (by decide) (by decide))⟩, hlarge, fun h => ?_⟩
  have htimeout : clockSeconds + 1 ≤ clockSeconds := (hleave.1 h).timeout
  omega

/-- A file that has a session wait for ever. -/
def endlessFile : String :=
  "[defaults]\nrequest_timeout_secs = 9223372036854775807\n[profiles.p]\nhost = \x22h\x22\n"

/-- What it makes. -/
def endlessConfig : Config :=
  ⟨"default", ⟨9223372036854775807, Defaults.builtin.backoff⟩, [("p", .ofHost "h")]⟩

/-- A second after the beginning of time the login is taken, and there is no time by which the
response has to come. -/
theorem endless_timeout_leaves_range :
    (load (some endlessFile) []).toOption = some endlessConfig ∧
    (0, 9223372036854775807000) ∈ additions 9223372036854775807000
      (run (timedSetup (endlessConfig.defaults.session (some (.ofHost "h"))))
        [.step, .offer 1 (.ok ()), .linkStep 1, .step, .linkStep 1, .linkStep 1]).trace ∧
    ¬ StaysInRange 1000 (0, 9223372036854775807000) ∧
    ¬ ∀ (text : Option String) (env : Environment) (c : Config) (name : String) (p : Profile)
      (setup : Setup Nat), load text env = .ok c → Dict.find? name c.profiles = some p →
      setup.settings = c.defaults.session (some p) →
      ∀ base acts, ∀ a ∈ additions setup.settings.requestTimeout (run setup acts).trace,
        StaysInRange base a := by
  have hload : (load (some endlessFile) []).toOption = some endlessConfig := by decide +kernel
  have hmem : (0, 9223372036854775807000) ∈ additions 9223372036854775807000
      (run (timedSetup (endlessConfig.defaults.session (some (.ofHost "h"))))
        [.step, .offer 1 (.ok ()), .linkStep 1, .step, .linkStep 1, .linkStep 1]).trace := by
    decide +kernel
  have hleaves : ¬ StaysInRange 1000 (0, 9223372036854775807000) := by
    intro h
    have hlt := h (by decide)
    revert hlt
    decide
  refine ⟨hload, hmem, hleaves, fun h => hleaves ?_⟩
  exact h (some endlessFile) [] endlessConfig "p" (.ofHost "h")
    (timedSetup (endlessConfig.defaults.session (some (.ofHost "h")))) (ok_of_toOption hload)
    rfl rfl 1000 _ _ hmem

end PrintClient.Config
