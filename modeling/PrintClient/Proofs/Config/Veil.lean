import PrintClient.Proofs.Config.Records
import PrintClient.Proofs.Config.TextKeys

/-!
# Configurations without their keys

API keys are put out of sight in the settings before they are read. As layers of settings can be
veiled one by one, settings that differ in their keys alone are the same under the veil. A
configuration that is read from veiled settings is the veiled configuration, and what is wrong with
the settings is the same, unless it is a key itself that cannot be read.

* `altered`, `Layerwise`: changing the entries of a setting, and layers that are changed alike;
* `Setting.veil`, `veil_overlay`: settings with a mask in place of each key;
* `secretsOf`, `KeyFault`: the keys in settings, and what is reported of one that is no text;
* `UpTo`, `upTo_ofSetting`: what is read from veiled settings;
* `asError_of_veil`: faults come from the same sources under the veil;
* `SameFile`, `SameVariables`, `veiled_load`: sources that differ in their keys alone.
-/

namespace PrintClient.Config

open Setting

namespace Setting

/-! ### Changing settings layer by layer -/

section Altered

variable {F : String → Setting → Setting} {g : List Setting → List Setting} {s : Setting}

/-- The settings under the keys of a table, each changed in its own way. -/
def alteredEntries (F : String → Setting → Setting) (entries : Dict Setting) : Dict Setting :=
  entries.map fun e => (e.1, F e.1 e.2)

/-- A table with its entries changed, or a list with its items changed. -/
def altered (F : String → Setting → Setting) (g : List Setting → List Setting) : Setting → Setting
  | .table entries => .table (alteredEntries F entries)
  | .list items => .list (g items)
  | s => s

/-- Layers may be changed before or after they are laid over each other. -/
def Layerwise (f : Setting → Setting) : Prop :=
  ∀ lower upper, f (lower.overlay upper) = (f lower).overlay (f upper)

theorem altered_ne_table (h : ∀ entries, s ≠ .table entries) (entries : Dict Setting) :
    altered F g s ≠ .table entries := by
  cases s with
  | table entries => exact absurd rfl (h entries)
  | _ => simp [altered]

theorem alteredEntries_insert (key : String) (s : Setting) (entries : Dict Setting) :
    alteredEntries F (Dict.insert key s entries) =
      Dict.insert key (F key s) (alteredEntries F entries) := by
  induction entries with
  | nil => rfl
  | cons e entries ih =>
    obtain ⟨k, t⟩ := e
    simp only [alteredEntries, Dict.insert, List.map_cons] at ih ⊢
    split_ifs
    · rfl
    · rfl
    · rw [List.map_cons, ih]

theorem find?_alteredEntries (key : String) (entries : Dict Setting) :
    Dict.find? key (alteredEntries F entries) = (Dict.find? key entries).map (F key) := by
  induction entries with
  | nil => rfl
  | cons e entries ih =>
    obtain ⟨k, t⟩ := e
    simp only [alteredEntries, Dict.find?, List.map_cons] at ih ⊢
    split_ifs with hkey
    · rw [hkey]
      rfl
    · exact ih

theorem alteredEntries_overlayTable (hF : ∀ key, Layerwise (F key)) (below above : Dict Setting) :
    alteredEntries F (overlayTable below above) =
      overlayTable (alteredEntries F below) (alteredEntries F above) := by
  induction above generalizing below with
  | nil => rfl
  | cons e above ih =>
    obtain ⟨key, s⟩ := e
    have honto : F key (onto (Dict.find? key below) s) =
        onto (Dict.find? key (alteredEntries F below)) (F key s) := by
      rw [find?_alteredEntries]
      cases Dict.find? key below with
      | none => rfl
      | some t => exact hF key t s
    rw [overlayTable_cons, ih, alteredEntries_insert, honto]
    exact (overlayTable_cons _ key (F key s) _).symm

/-- **What is changed entry by entry, and each entry layer by layer, is changed layer by layer.** -/
theorem layerwise_altered (hF : ∀ key, Layerwise (F key)) : Layerwise (altered F g) := by
  intro lower upper
  obtain ⟨above, rfl⟩ | hupper := table_or_not upper
  · obtain ⟨below, rfl⟩ | hlower := table_or_not lower
    · rw [overlay_table, altered, altered, altered, overlay_table, alteredEntries_overlayTable hF]
    · rw [overlay_onto_other hlower, altered, overlay_onto_other (altered_ne_table hlower)]
  · rw [overlay_of_not_table hupper, overlay_of_not_table (altered_ne_table hupper)]

end Altered

/-! ### The veil -/

/-- What stands in place of a key. -/
def mask : String := "****"

/-- A profile with the mask in place of its key, in either form. -/
def veilProfile : Setting → Setting :=
  altered (fun key s => if key = "api_key" then .text mask else s) fun items =>
    items.set 2 (.text mask)

/-- A table of profiles with the mask in place of their keys. -/
def veilProfiles : Setting → Setting := altered (fun _ => veilProfile) id

/-- Settings with the mask in place of all keys. -/
def veil : Setting → Setting :=
  altered (fun key s => if key = "profiles" then veilProfiles s
    else if key = "api_key" then .text mask else s) id

theorem layerwise_veilProfile : Layerwise veilProfile := by
  refine layerwise_altered fun key lower upper => ?_
  split_ifs
  · rfl
  · rfl

/-- **Layers are veiled one by one.** -/
theorem veil_overlay (lower upper : Setting) :
    veil (lower.overlay upper) = (veil lower).overlay (veil upper) := by
  refine layerwise_altered (fun key lower upper => ?_) lower upper
  split_ifs
  · exact layerwise_altered (fun _ => layerwise_veilProfile) lower upper
  · rfl
  · rfl

/-- What an alteration leaves at the end of a path is there if each entry leaves it there. -/
theorem reaches_altered {F : String → Setting → Setting} {g : List Setting → List Setting}
    {key : String} {path : List String} (h : ∀ s, (F key s).reaches path = s.reaches path)
    (s : Setting) : (altered F g s).reaches (key :: path) = s.reaches (key :: path) := by
  cases s with
  | table entries =>
    rw [altered, reaches, reaches, find?_alteredEntries]
    cases Dict.find? key entries with
    | none => rfl
    | some t => exact h t
  | _ => rfl

/-- No setting appears or disappears in a profile, the key included. -/
theorem reaches_veilProfile {path : List String} (h : path.length ≤ 1) (s : Setting) :
    (veilProfile s).reaches path = s.reaches path := by
  cases path with
  | nil => rw [reaches, reaches]
  | cons key path =>
    obtain rfl : path = [] := List.eq_nil_of_length_eq_zero (by simpa using h)
    exact reaches_altered (fun s => by rw [reaches, reaches]) s

/-- No setting appears or disappears where the settings of profiles stand. -/
theorem reaches_veil {key : String} {path : List String} (hkey : key ≠ "api_key")
    (h : path.length ≤ 2) (s : Setting) :
    (veil s).reaches (key :: path) = s.reaches (key :: path) := by
  refine reaches_altered (fun s => ?_) s
  split_ifs
  · cases path with
    | nil => rw [reaches, reaches]
    | cons name path => exact reaches_altered (reaches_veilProfile (Nat.le_of_succ_le_succ h)) s
  · rfl

/-- A key has the mask whatever it was. -/
theorem veil_nested_key (profile : String) (s : Setting) :
    veil (nested ["profiles", profile, "api_key"] s) =
      nested ["profiles", profile, "api_key"] (.text mask) := rfl

end Setting

/-! ### Keys that cannot be read -/

/-- The keys in a setting with their paths, in the order in which they are read. -/
abbrev Secrets := List (List String × Setting)

/-- The same keys, seen from the table that holds the setting under a key. -/
def Secrets.under (key : String) (ks : Secrets) : Secrets := ks.map fun k => (key :: k.1, k.2)

/-- The key of a profile. -/
def secretsOfProfile : Setting → Secrets
  | .table entries => entries.filterMap fun e =>
    if e.1 = "api_key" then some (["api_key"], e.2) else none
  | .list items => (items[2]?.map fun s => (["2"], s)).toList
  | _ => []

/-- The keys of a table of profiles. -/
def secretsOfProfiles : Setting → Secrets
  | .table entries => entries.flatMap fun e => (secretsOfProfile e.2).under e.1
  | _ => []

/-- The keys in the settings of a configuration. -/
def secretsOf : Setting → Secrets
  | .table entries => entries.flatMap fun e =>
    if e.1 = "profiles" then (secretsOfProfiles e.2).under e.1 else []
  | _ => []

/-- What is reported of a key that is no text: where it stands, and what stands there. -/
def KeyFault (ks : Secrets) (fault : Fault) : Prop :=
  ∃ k ∈ ks, (∀ t, k.2 ≠ .text t) ∧ fault = ⟨k.1, .wrongType k.2.found .text⟩

section KeyFault

variable {ks ks' : Secrets} {fault : Fault} {s : Setting}

theorem KeyFault.mono (h : KeyFault ks fault) (hks : ks ⊆ ks') : KeyFault ks' fault := by
  obtain ⟨k, hk, htext, hfault⟩ := h
  exact ⟨k, hks hk, htext, hfault⟩

theorem KeyFault.under (h : KeyFault ks fault) (key : String) :
    KeyFault (ks.under key) (fault.under key) := by
  obtain ⟨k, hk, htext, rfl⟩ := h
  exact ⟨(key :: k.1, k.2), List.mem_map_of_mem hk, htext, rfl⟩

theorem keyFault_of_readText {key : String}
    (h : (readText s).mapError (Fault.under key) = .error fault) (hmem : ([key], s) ∈ ks) :
    KeyFault ks fault := by
  unfold readText at h
  split at h
  · cases h
  · rename_i hother
    cases h
    exact ⟨([key], s), hmem, hother, rfl⟩

end KeyFault

/-! ### Reading up to faults -/

/-- What comes of a reading under the veil: the same as without it, unless that met a fault of a
kind. -/
def UpTo {α : Type} (P : Fault → Prop) (x y : Except Fault α) : Prop :=
  y = x ∨ ∃ fault, x = .error fault ∧ P fault

section UpTo

variable {α β γ : Type} {P Q : Fault → Prop} {x y : Except Fault α} {w : β → γ}

theorem UpTo.mono (h : UpTo P x y) (hPQ : ∀ fault, P fault → Q fault) : UpTo Q x y :=
  h.imp id fun ⟨fault, hx, hfault⟩ => ⟨fault, hx, hPQ fault hfault⟩

/-- The same step in front of two readings. -/
theorem UpTo.step {f : α → Except Fault β} {g : α → Except Fault γ}
    (h : ∀ a, x = .ok a → UpTo P ((f a).map w) (g a)) :
    UpTo P ((x >>= f).map w) (x >>= g) := by
  cases x with
  | error fault => exact .inl rfl
  | ok a => exact h a rfl

/-- The reading of a key in front of two readings, the second of which has the mask for it. -/
theorem UpTo.secret {f : α → Except Fault β} {y : Except Fault γ}
    (hx : ∀ fault, x = .error fault → P fault)
    (h : ∀ a, x = .ok a → UpTo P ((f a).map w) y) : UpTo P ((x >>= f).map w) y := by
  cases x with
  | error fault => exact .inr ⟨fault, rfl, hx fault rfl⟩
  | ok a => exact h a rfl

/-- Readings one after the other. -/
theorem UpTo.bind {δ : Type} {x : Except Fault β} {y : Except Fault γ} {f : β → Except Fault α}
    {g : γ → Except Fault δ} {v : α → δ} (hx : UpTo P (x.map w) y)
    (h : ∀ b, UpTo P ((f b).map v) (g (w b))) : UpTo P ((x >>= f).map v) (y >>= g) := by
  cases x with
  | error fault =>
    obtain rfl | ⟨fault', heq, hfault⟩ := hx
    · exact .inl rfl
    · cases heq
      exact .inr ⟨fault, rfl, hfault⟩
  | ok b =>
    obtain rfl | ⟨fault', heq, -⟩ := hx
    · exact h b
    · cases heq

theorem UpTo.under {x : Except Fault β} {y : Except Fault γ} {key : String} (h : UpTo P (x.map w) y)
    (hPQ : ∀ fault, P fault → Q (fault.under key)) :
    UpTo Q ((x.mapError (Fault.under key)).map w) (y.mapError (Fault.under key)) := by
  obtain rfl | ⟨fault, hx, hfault⟩ := h
  · left
    cases x <;> rfl
  · right
    cases x with
    | error fault' =>
      cases hx
      exact ⟨fault.under key, rfl, hPQ fault hfault⟩
    | ok b => cases hx

end UpTo

/-! ### Reading under the veil -/

/-- The profile with the mask in place of its key. -/
def veiledProfile (p : Profile) : Profile := { p with apiKey := p.apiKey.map fun _ => mask }

/-- The configuration with the mask in place of all keys. -/
def veiled (c : Config) : Config :=
  { c with profiles := c.profiles.map fun e => (e.1, veiledProfile e.2) }

section Reading

variable {entries : Dict Setting} {s : Setting}

theorem secretsOfProfile_cons (key : String) (s : Setting) (entries : Dict Setting) :
    secretsOfProfile (.table entries) ⊆ secretsOfProfile (.table ((key, s) :: entries)) := by
  unfold secretsOfProfile
  exact (List.sublist_cons_self _ _).filterMap _ |>.subset

theorem upTo_readProfileEntries (hosted : Bool) (p : Profile) :
    UpTo (KeyFault (secretsOfProfile (.table entries)))
      ((readProfileEntries hosted p entries).map veiledProfile)
      (readProfileEntries hosted (veiledProfile p) (alteredEntries
        (fun key s => if key = "api_key" then .text mask else s) entries)) := by
  induction entries generalizing hosted p with
  | nil =>
    left
    cases hosted <;> rfl
  | cons e entries ih =>
    obtain ⟨key, s⟩ := e
    have hrest (hosted : Bool) (p : Profile) := (ih hosted p).mono fun fault h =>
      h.mono (secretsOfProfile_cons key s entries)
    simp only [readProfileEntries, alteredEntries, List.map_cons]
    split_ifs with h₁ h₂ h₃ h₄ h₅
    · refine UpTo.secret (fun fault hfault => ?_) fun apiKey _ => ?_
      · refine keyFault_of_readText hfault ?_
        simp [secretsOfProfile, h₁]
      · exact hrest hosted { p with apiKey := some apiKey }
    · exact UpTo.step fun source _ => hrest hosted { p with apiKeyEnv := some source }
    · exact UpTo.step fun host _ => hrest true { p with host }
    · exact UpTo.step fun port _ => hrest hosted { p with port }
    · exact UpTo.step fun seconds _ => hrest hosted { p with requestTimeout := some seconds }
    · exact hrest hosted p

theorem readItem_of_some {α : Type} {read : Setting → Except Fault α} {missing : Except Fault α}
    {index : Nat} {items : List Setting} (h : items[index]? = some s) :
    readItem read missing index items = (read s).mapError (Fault.under (toString index)) := by
  rw [readItem, h]

theorem readItem_of_none {α : Type} {read : Setting → Except Fault α} {missing : Except Fault α}
    {index : Nat} {items : List Setting} (h : items[index]? = none) :
    readItem read missing index items = missing := by
  rw [readItem, h]

theorem readItem_set_of_ne {α : Type} {read : Setting → Except Fault α}
    {missing : Except Fault α} {index place : Nat} (hne : place ≠ index) (s : Setting)
    (items : List Setting) :
    readItem read missing index (items.set place s) = readItem read missing index items := by
  rw [readItem, readItem, List.getElem?_set_ne hne]

theorem upTo_readProfileItems (items : List Setting) :
    UpTo (KeyFault (secretsOfProfile (.list items))) ((readProfileItems items).map veiledProfile)
      (readProfileItems (items.set 2 (.text mask))) := by
  have hhost : 2 ≠ 0 := by decide
  have hport : 2 ≠ 1 := by decide
  have hsource : 2 ≠ 3 := by decide
  have htimeout : 2 ≠ 4 := by decide
  simp only [readProfileItems, readItem_set_of_ne hhost, readItem_set_of_ne hport,
    readItem_set_of_ne hsource, readItem_set_of_ne htimeout]
  refine UpTo.step fun host _ => UpTo.step fun port _ => ?_
  cases hitem : items[2]? with
  | none =>
    -- the fault is that there is no key at all
    have hset : (items.set 2 (.text mask))[2]? = none := by
      simpa using hitem
    rw [readItem_of_none hitem, readItem_of_none hset]
    exact .inl rfl
  | some s =>
    have hset : (items.set 2 (.text mask))[2]? = some (.text mask) := by
      rw [List.getElem?_set_self (List.getElem?_eq_some_iff.1 hitem).1]
    rw [readItem_of_some hitem, readItem_of_some hset]
    refine UpTo.secret (fun fault hfault => ?_) fun apiKey _ => ?_
    · refine keyFault_of_readText hfault ?_
      rw [secretsOfProfile, hitem]
      exact List.mem_singleton_self _
    · exact UpTo.step fun source _ => UpTo.step fun seconds _ => .inl rfl

theorem upTo_readProfile (s : Setting) :
    UpTo (KeyFault (secretsOfProfile s)) ((readProfile s).map veiledProfile)
      (readProfile (veilProfile s)) := by
  cases s with
  | table entries => exact upTo_readProfileEntries false (.ofHost "")
  | list items => exact upTo_readProfileItems items
  | _ => exact .inl rfl

theorem upTo_readProfileTable :
    UpTo (KeyFault (secretsOfProfiles (.table entries)))
      ((readProfileTable entries).map (·.map fun e => (e.1, veiledProfile e.2)))
      (readProfileTable (alteredEntries (fun _ => veilProfile) entries)) := by
  induction entries with
  | nil => exact .inl rfl
  | cons e entries ih =>
    obtain ⟨key, s⟩ := e
    have hsecrets : secretsOfProfiles (.table ((key, s) :: entries)) =
        (secretsOfProfile s).under key ++ secretsOfProfiles (.table entries) := List.flatMap_cons
    have hfirst := (upTo_readProfile s).under fun fault h => h.under key
    rw [hsecrets]
    simp only [readProfileTable, alteredEntries, List.map_cons]
    refine UpTo.bind (hfirst.mono fun fault h => h.mono ?_) fun p =>
      UpTo.bind (ih.mono fun fault h => h.mono ?_) fun ps => .inl rfl
    · exact List.subset_append_left _ _
    · exact List.subset_append_right _ _

theorem upTo_readProfiles (s : Setting) :
    UpTo (KeyFault (secretsOfProfiles s))
      ((readProfiles s).map (·.map fun e => (e.1, veiledProfile e.2)))
      (readProfiles (veilProfiles s)) := by
  cases s with
  | table entries => exact upTo_readProfileTable
  | _ => exact .inl rfl

theorem upTo_readEntries (c : Config) :
    UpTo (KeyFault (secretsOf (.table entries))) ((readEntries c entries).map veiled)
      (readEntries (veiled c) (alteredEntries (fun key s =>
        if key = "profiles" then veilProfiles s
        else if key = "api_key" then .text mask else s) entries)) := by
  induction entries generalizing c with
  | nil => exact .inl rfl
  | cons e entries ih =>
    obtain ⟨key, s⟩ := e
    have hsecrets : secretsOf (.table ((key, s) :: entries)) =
        (if key = "profiles" then (secretsOfProfiles s).under key else []) ++
          secretsOf (.table entries) := List.flatMap_cons
    have hrest (c : Config) := (ih c).mono fun fault h => h.mono (List.subset_append_right
      (if key = "profiles" then (secretsOfProfiles s).under key else []) _)
    rw [hsecrets]
    simp only [readEntries, alteredEntries, List.map_cons]
    by_cases h₁ : key = "default_profile"
    · subst h₁
      exact UpTo.step fun name _ => hrest { c with defaultProfile := name }
    by_cases h₂ : key = "defaults"
    · subst h₂
      exact UpTo.step fun defaults _ => hrest { c with defaults }
    by_cases h₃ : key = "profiles"
    · subst h₃
      have hprofiles := (upTo_readProfiles s).under fun fault h => h.under "profiles"
      refine UpTo.bind (hprofiles.mono fun fault h => h.mono ?_) fun profiles =>
        hrest { c with profiles }
      exact List.subset_append_left _ _
    · simp only [if_neg h₁, if_neg h₂, if_neg h₃] at hrest ⊢
      exact hrest c

/-- **What is read from veiled settings is the veiled configuration, or the same fault, unless a key
cannot be read.** -/
theorem upTo_ofSetting (s : Setting) :
    UpTo (KeyFault (secretsOf s)) ((ofSetting s).map veiled) (ofSetting (veil s)) := by
  cases s with
  | table entries => exact upTo_readEntries .builtin
  | _ => exact .inl rfl

end Reading

/-! ### Sources that differ in their keys alone -/

section Sources

variable {file file' : Option String} {env env' : Environment}

/-- The files say the same apart from the keys. -/
def SameFile (file file' : Option String) : Prop :=
  file = file' ∨ ∃ s s', ofFile file = .ok s ∧ ofFile file' = .ok s' ∧ veil s = veil s'

/-- Whether a variable may say something about keys. -/
def maySayKeys (variableName : String) : Bool :=
  match settingPath? variableName with
  | some path => path = ["api_key"] || path.head? = some "profiles"
  | none => false

/-- A variable says the same as another apart from the keys. -/
structure SameVariable (v w : String × String) : Prop where
  name : v.1 = w.1
  setting : veil (ofVariable v.1 v.2) = veil (ofVariable w.1 w.2)
  text : v.2 = w.2 ∨ maySayKeys v.1 = true

/-- The same variables are set, and say the same apart from the keys. -/
def SameVariables (env env' : Environment) : Prop := List.Forall₂ SameVariable env env'

/-- The report on the sources shows what stands in place of a key. -/
def ShowsKey (file : Option String) (env : Environment) : Prop :=
  ∃ s fault, ofFile file = .ok s ∧ KeyFault (secretsOf (merged s env)) fault ∧
    load file env = .error (fault.asError s (ofEnvironment env))

/-- A variable for the key of a profile may have any value. -/
theorem sameVariable_of_key {variableName profile : String}
    (h : settingPath? variableName = some ["profiles", profile, "api_key"]) (text text' : String) :
    SameVariable (variableName, text) (variableName, text') := by
  refine ⟨rfl, ?_, .inr ?_⟩
  · simp only [ofVariable, h, veil_nested_key]
  · simp [maySayKeys, h]

theorem veil_foldl_ofVariable {lower lower' : Setting} (h : SameVariables env env')
    (hlower : veil lower = veil lower') :
    veil (env.foldl (fun lower v => lower.overlay (ofVariable v.1 v.2)) lower) =
      veil (env'.foldl (fun lower v => lower.overlay (ofVariable v.1 v.2)) lower') := by
  induction h generalizing lower lower' with
  | nil => exact hlower
  | cons hv _ ih =>
    refine ih ?_
    rw [veil_overlay, veil_overlay, hlower, hv.setting]

theorem veil_ofEnvironment (henv : SameVariables env env') :
    veil (ofEnvironment env) = veil (ofEnvironment env') := veil_foldl_ofVariable henv rfl

theorem veil_merged {s s' : Setting} (hfile : veil s = veil s') (henv : SameVariables env env') :
    veil (merged s env) = veil (merged s' env') := by
  rw [merged, merged, veil_overlay, veil_overlay, veil_overlay, veil_overlay, hfile,
    veil_ofEnvironment henv]

/-- A fault comes from the same source whatever the keys are. -/
theorem asError_of_veil {s s' settings : Setting} (hfile : veil s = veil s')
    (henv : SameVariables env env') {fault : Fault} (hfault : ofSetting settings = .error fault) :
    fault.asError s (ofEnvironment env) = fault.asError s' (ofEnvironment env') := by
  obtain ⟨entries, rfl⟩ | hother := table_or_not settings
  case inr =>
    have hpath : fault.path = [] := by
      cases settings <;> first | exact absurd rfl (hother _) | (cases hfault; rfl)
    simp only [Fault.asError, sourceOf, hpath, reaches, if_true]
  obtain ⟨key, hkey, path, hpath, hlength⟩ := exists_path_of_readEntries hfault
  have hne : key ≠ "api_key" := by
    rintro rfl
    revert hkey
    decide
  rw [Fault.asError, Fault.asError, sourceOf, sourceOf, hpath, ← reaches_veil hne hlength s,
    ← reaches_veil hne hlength s', ← reaches_veil hne hlength (ofEnvironment env),
    ← reaches_veil hne hlength (ofEnvironment env'), hfile, veil_ofEnvironment henv]

/-- What is loaded, under the veil. -/
theorem map_veiled_load {s : Setting} (hs : ofFile file = .ok s) (env : Environment) :
    (load file env).map veiled = ((ofSetting (merged s env)).map veiled).mapError
      (Fault.asError s (ofEnvironment env)) := by
  rw [load_eq hs]
  cases ofSetting (merged s env) <;> rfl

theorem load_eq_error {s : Setting} {fault : Fault} (hs : ofFile file = .ok s)
    (h : (ofSetting (merged s env)).map veiled = .error fault) :
    load file env = .error (fault.asError s (ofEnvironment env)) := by
  have hload := map_veiled_load hs env
  rw [h] at hload
  cases hresult : load file env with
  | error e =>
    rw [hresult] at hload
    exact hload
  | ok c =>
    rw [hresult] at hload
    cases hload

/-- **Sources that differ in their keys alone make the same configuration apart from the keys, or
are refused alike, unless one report shows what stands in place of a key.** -/
theorem veiled_load (hfile : SameFile file file') (henv : SameVariables env env') :
    (load file env).map veiled = (load file' env').map veiled ∨
      ShowsKey file env ∨ ShowsKey file' env' := by
  have hread {s s' : Setting} (hs : ofFile file = .ok s) (hs' : ofFile file' = .ok s')
      (hveil : veil s = veil s') : (load file env).map veiled =
        (load file' env').map veiled ∨ ShowsKey file env ∨ ShowsKey file' env' := by
    have hleft := upTo_ofSetting (merged s env)
    have hright := upTo_ofSetting (merged s' env')
    rw [veil_merged hveil henv] at hleft
    obtain hleft | ⟨fault, hfault, hkey⟩ := hleft
    · obtain hright | ⟨fault, hfault, hkey⟩ := hright
      · left
        rw [map_veiled_load hs, map_veiled_load hs', ← hleft, ← hright]
        cases hread : ofSetting (veil (merged s' env')) with
        | ok c => rfl
        | error fault => exact congrArg _ (asError_of_veil hveil henv hread)
      · exact .inr (.inr ⟨s', fault, hs', hkey, load_eq_error hs' hfault⟩)
    · exact .inr (.inl ⟨s, fault, hs, hkey, load_eq_error hs hfault⟩)
  obtain rfl | ⟨s, s', hs, hs', hveil⟩ := hfile
  · cases hs : ofFile file with
    | error fault =>
      left
      rw [load, load, hs]
      rfl
    | ok s => exact hread hs hs rfl
  · exact hread hs hs' hveil

end Sources

end PrintClient.Config
