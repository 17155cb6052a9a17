import PrintClient.Proofs.Config.Layers

/-!
# Loading a configuration

What is loaded from a file and the environment is layered, whatever the order of the variables and
the case of their names. One variable more changes the key that it names, and nothing else: the
other keys of its table and all other profiles stay as they are. Only where the file writes the
record as a list, the first variable that names a key of it replaces the whole list.

* `exists_of_load`: a configuration is read from its layers;
* `Keeps`, `given_cons`: what one more variable leaves of a record;
* `Unchanged`, `unchanged_of_layered`: what it leaves of the configuration;
* `load_layered`: what holds of all that is loaded.
-/

namespace PrintClient.Config

open Setting

variable {α : Type} {file : Setting} {vs : List (List String × Setting)}
  {v : List String × Setting} {path record : List String} {index : Nat} {key : String}
  {c c' : Config}

/-! ### One more variable -/

/-- One more variable leaves the other keys of a record: it names no key of the record, or it is not
the first that does, or the file does not write the record as a list. -/
def Keeps (file : Setting) (vs : List (List String × Setting)) (v : List String × Setting)
    (record : List String) : Prop :=
  record <+: v.1 → (∃ w ∈ vs, record <+: w.1) ∨ ∀ items, file.at? record ≠ some (.list items)

theorem named_cons_of_ne (h : v.1 ≠ path) (vs : List (List String × Setting)) :
    named (v :: vs) path = named vs path := by
  rw [named, List.find?_cons_of_neg (by simpa using h)]
  rfl

theorem exists_prefix_cons :
    (∃ w ∈ v :: vs, record <+: w.1) ↔ record <+: v.1 ∨ ∃ w ∈ vs, record <+: w.1 := by
  simp

/-- A record that is no list gives its fields under their keys. -/
theorem bind_field_eq_at? (h : ∀ items, file.at? record ≠ some (.list items)) :
    (file.at? record).bind (field index key) = file.at? (record ++ [key]) := by
  rw [at?_append]
  cases hat : file.at? record with
  | none => rfl
  | some s =>
    obtain ⟨entries, rfl⟩ | hother := table_or_not s
    · exact (at?_concat (at?_nil _) key).symm
    · rw [Option.bind_some, Option.bind_some, at?_of_not_table hother]
      cases s with
      | list items => exact absurd hat (h items)
      | table entries => exact absurd rfl (hother entries)
      | _ => rfl

/-- The other keys of the record have the settings that they had. -/
theorem given_cons (hne : v.1 ≠ record ++ [key]) (hkeeps : Keeps file vs v record) :
    given file (v :: vs) record index key = given file vs record index key := by
  rw [given, given, named_cons_of_ne hne]
  cases named vs (record ++ [key]) with
  | some s => rfl
  | none =>
    dsimp only
    by_cases hrest : ∃ w ∈ vs, record <+: w.1
    · rw [if_pos (exists_prefix_cons.2 (.inr hrest)), if_pos hrest]
    · rw [if_neg hrest]
      split
      · rename_i hany
        have hv : record <+: v.1 := (exists_prefix_cons.1 hany).resolve_right hrest
        exact (bind_field_eq_at? ((hkeeps hv).resolve_left hrest)).symm
      · rfl

/-- So they are read as they were. -/
theorem eq_of_given_cons {read : Setting → Except Fault α} {default : Option α} {a b : α}
    (hkeeps : Keeps file vs v record) (hne : v.1 ≠ record ++ [key])
    (hb : Reads read default (given file (v :: vs) record index key) b)
    (ha : Reads read default (given file vs record index key) a) : b = a := by
  rw [given_cons hne hkeeps] at hb
  exact hb.unique ha

/-! ### The other keys -/

/-- Two profiles are the same apart from the key that a path names. -/
structure SameApart (path : List String) (name : String) (p p' : Profile) : Prop where
  host : path ≠ ["profiles", name, "host"] → p'.host = p.host
  port : path ≠ ["profiles", name, "port"] → p'.port = p.port
  apiKey : path ≠ ["profiles", name, "api_key"] → p'.apiKey = p.apiKey
  apiKeyEnv : path ≠ ["profiles", name, "api_key_env"] → p'.apiKeyEnv = p.apiKeyEnv
  requestTimeout : path ≠ ["profiles", name, "request_timeout_secs"] →
    p'.requestTimeout = p.requestTimeout

theorem SameApart.eq_of_ne {name : String} {p p' : Profile} (h : SameApart path name p p')
    (hne : ∀ key, path ≠ ["profiles", name, key]) : p' = p := by
  obtain ⟨hhost, hport, hkey, hsource, htimeout⟩ := h
  cases p
  cases p'
  simp only [Profile.mk.injEq]
  exact ⟨hhost (hne _), hport (hne _), hkey (hne _), hsource (hne _), htimeout (hne _)⟩

/-- Two configurations are the same apart from the key that one more variable names. -/
structure Unchanged (file : Setting) (vs : List (List String × Setting))
    (v : List String × Setting) (c c' : Config) : Prop where
  defaultProfile : v.1 ≠ ["default_profile"] → c'.defaultProfile = c.defaultProfile
  requestTimeout : v.1 ≠ ["defaults", "request_timeout_secs"] → Keeps file vs v ["defaults"] →
    c'.defaults.requestTimeout = c.defaults.requestTimeout
  backoff : v.1 ≠ ["defaults", "backoff_secs"] → Keeps file vs v ["defaults"] →
    c'.defaults.backoff = c.defaults.backoff
  /-- The other keys of a profile. -/
  profile : ∀ name p, Dict.find? name c.profiles = some p → Keeps file vs v ["profiles", name] →
    ∃ p', Dict.find? name c'.profiles = some p' ∧ SameApart v.1 name p p'
  /-- The other profiles. -/
  others : ∀ name, ¬ ["profiles", name] <+: v.1 →
    Dict.find? name c'.profiles = Dict.find? name c.profiles

section Unchanged

variable (h : Layered file vs c) (h' : Layered file (v :: vs) c')

include h h'

theorem sameApart_of_layered {name : String} {p p' : Profile}
    (hkeeps : Keeps file vs v ["profiles", name]) (hp : Dict.find? name c.profiles = some p)
    (hp' : Dict.find? name c'.profiles = some p') : SameApart v.1 name p p' := by
  have hreads := h.profile name p hp
  have hreads' := h'.profile name p' hp'
  exact
    { host := fun hne => eq_of_given_cons hkeeps hne hreads'.host hreads.host
      port := fun hne => eq_of_given_cons hkeeps hne hreads'.port hreads.port
      apiKey := fun hne => eq_of_given_cons hkeeps hne hreads'.apiKey hreads.apiKey
      apiKeyEnv := fun hne => eq_of_given_cons hkeeps hne hreads'.apiKeyEnv hreads.apiKeyEnv
      requestTimeout := fun hne =>
        eq_of_given_cons hkeeps hne hreads'.requestTimeout hreads.requestTimeout }

/-- **One more variable changes the key that it names, and nothing else.** -/
theorem unchanged_of_layered : Unchanged file vs v c c' := by
  constructor
  · intro hne
    have hname := h'.defaultProfile
    rw [named_cons_of_ne hne] at hname
    exact hname.unique h.defaultProfile
  · intro hne hkeeps
    exact eq_of_given_cons hkeeps hne h'.defaults.requestTimeout h.defaults.requestTimeout
  · intro hne hkeeps
    exact eq_of_given_cons hkeeps hne h'.defaults.backoff h.defaults.backoff
  · intro name p hp hkeeps
    have hsome : (Dict.find? name c'.profiles).isSome = true := by
      have hnamed := (h.named name).1 (hp ▸ rfl)
      exact (h'.named name).2 (hnamed.imp id fun hvs => exists_prefix_cons.2 (.inr hvs))
    obtain ⟨p', hp'⟩ := Option.isSome_iff_exists.1 hsome
    exact ⟨p', hp', sameApart_of_layered h h' hkeeps hp hp'⟩
  · intro name hother
    have hnamed : (Dict.find? name c'.profiles).isSome ↔ (Dict.find? name c.profiles).isSome := by
      rw [h'.named, h.named, exists_prefix_cons, or_iff_right hother]
    have hne (key : String) : v.1 ≠ ["profiles", name, key] := by
      intro heq
      exact hother (heq ▸ List.prefix_append ["profiles", name] [key])
    cases hp : Dict.find? name c.profiles with
    | none =>
      rw [hp] at hnamed
      exact Option.not_isSome_iff_eq_none.1 fun hsome => by cases hnamed.1 hsome
    | some p =>
      rw [hp] at hnamed
      obtain ⟨p', hp'⟩ := Option.isSome_iff_exists.1 (hnamed.2 rfl)
      have hsame := sameApart_of_layered h h' (fun hv => absurd hv hother) hp hp'
      rw [hp', hsame.eq_of_ne hne]

end Unchanged

/-! ### Loading -/

theorem exists_of_load {text : Option String} {env : Environment} (h : load text env = .ok c) :
    ∃ s, ofFile text = .ok s ∧
      ofSetting ((builtinSetting.overlay s).overlay (ofEnvironment env)) = .ok c := by
  obtain ⟨s, hs, hread⟩ := exists_of_bind h
  exact ⟨s, ok_of_mapError hs, ok_of_mapError hread⟩

/-- The same settings, in whatever order, give the same configuration or the same error. -/
theorem load_perm {env env' : Environment} (text : Option String)
    (h : ((namedSettings env).map Prod.fst).Pairwise Separate)
    (hperm : (namedSettings env).Perm (namedSettings env')) : load text env' = load text env := by
  unfold load
  rw [ofEnvironment_eq, ofEnvironment_eq, laid_perm h hperm]

/-- **A configuration that is loaded has all its values from the uppermost layer that gives them.**
It depends neither on the order of the variables nor on the case of their names, and one variable
more changes the key that it names only. -/
theorem load_layered (text : Option String) (env : Environment) (c : Config)
    (hindependent : Independent ((namedSettings env).map Prod.fst)) (h : load text env = .ok c) :
    ∃ s, ofFile text = .ok s ∧ Layered s (namedSettings env) c ∧
      (∀ env', (env.map lowered).Perm (env'.map lowered) → load text env' = .ok c) ∧
      ∀ v env' c', (v :: namedSettings env).Perm (namedSettings env') →
        Independent ((v :: namedSettings env).map Prod.fst) → load text env' = .ok c' →
        Unchanged s (namedSettings env) v c c' := by
  obtain ⟨s, hs, hread⟩ := exists_of_load h
  rw [ofEnvironment_eq] at hread
  have hordered := ordered_of_ofFile hs
  have hvs (env : Environment) : ∀ v ∈ namedSettings env, v.2.Ordered :=
    fun v hv => ordered_of_mem_namedSettings hv
  have hlayered := layered_of_ofSetting hindependent (hvs env) hordered hread
  refine ⟨s, hs, hlayered, fun env' hperm => ?_, fun v env' c' hperm hindependent' h' => ?_⟩
  · rw [load_perm text hindependent.separate (namedSettings_perm hperm), h]
  · obtain ⟨s', hs', hread'⟩ := exists_of_load h'
    rw [ofEnvironment_eq] at hread'
    obtain rfl : s = s' := Except.ok.inj (hs.symm.trans hs')
    rw [← laid_perm hindependent'.separate hperm] at hread'
    have hvs' : ∀ w ∈ v :: namedSettings env, w.2.Ordered :=
      fun w hw => hvs env' w (hperm.mem_iff.1 hw)
    exact unchanged_of_layered hlayered (layered_of_ofSetting hindependent' hvs' hordered hread')

theorem ok_of_toOption {ε : Type} {x : Except ε α} {a : α} (h : x.toOption = some a) :
    x = .ok a := by
  cases x with
  | error fault => cases h
  | ok b =>
    cases h
    rfl

/-- A file with two profiles. -/
def sampleFile : String :=
  "default_profile = \x22p\x22\n[profiles.p]\nhost = \x22h\x22\nport = 80\n" ++
    "[profiles.q]\nhost = \x22i\x22\n"

/-- The port of the first one, and a list of delays. -/
def sampleVariables : Environment :=
  [("REPLINK_PROFILES__P__PORT", "81"), ("Replink_Defaults__Backoff_Secs", "[3]")]

/-- What the two make together. -/
def sampleConfig : Config :=
  ⟨"p", ⟨5, [3]⟩, [("p", ⟨"h", 81, none, none, none⟩), ("q", .ofHost "i")]⟩

/-- The variables replace the port and the list, in any order. -/
theorem load_layered_of_two_profiles :
    ∃ s, ofFile (some sampleFile) = .ok s ∧ Layered s (namedSettings sampleVariables) sampleConfig ∧
      load (some sampleFile)
        [("REPLINK_DEFAULTS__BACKOFF_SECS", "[3]"), ("replink_profiles__p__port", "81")] =
          .ok sampleConfig := by
  have hload : load (some sampleFile) sampleVariables = .ok sampleConfig :=
    ok_of_toOption (by decide +kernel)
  obtain ⟨s, hs, hlayered, hperm, -⟩ :=
    load_layered (some sampleFile) sampleVariables sampleConfig (by decide +kernel) hload
  exact ⟨s, hs, hlayered, hperm _ (by decide +kernel)⟩

/-- A variable that names a key of a record written as a list takes the value of another key
away. -/
theorem listed_defaults_replaced :
    (load (some "defaults = [7]") []).toOption =
      some ⟨"default", ⟨7, Defaults.builtin.backoff⟩, []⟩ ∧
    (load (some "defaults = [7]") [("REPLINK_DEFAULTS__BACKOFF_SECS", "[3]")]).toOption =
      some ⟨"default", ⟨5, [3]⟩, []⟩ ∧
    ¬ ∀ (text : Option String) (env : Environment) (v : String × String) (c c' : Config),
      Independent ((namedSettings (v :: env)).map Prod.fst) →
      load text env = .ok c → load text (v :: env) = .ok c' →
      settingPath? v.1 = some ["defaults", "backoff_secs"] →
      c'.defaults.requestTimeout = c.defaults.requestTimeout := by
  have hfile : (load (some "defaults = [7]") []).toOption =
      some ⟨"default", ⟨7, Defaults.builtin.backoff⟩, []⟩ := by decide +kernel
  have hvariable : (load (some "defaults = [7]")
      [("REPLINK_DEFAULTS__BACKOFF_SECS", "[3]")]).toOption = some ⟨"default", ⟨5, [3]⟩, []⟩ := by
    decide +kernel
  refine ⟨hfile, hvariable, fun hall => ?_⟩
  have hsame := hall _ _ _ _ _ (by decide +kernel) (ok_of_toOption hfile)
    (ok_of_toOption hvariable) (by decide +kernel)
  exact absurd hsame (by decide)

end PrintClient.Config
