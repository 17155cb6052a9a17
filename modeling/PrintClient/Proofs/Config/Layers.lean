import PrintClient.Proofs.Config.Records
import PrintClient.Proofs.Config.Variables

/-!
# Layers of settings

A configuration is read from three layers: the environment over the file over the built-in values.
Every key has the value that the uppermost layer with a setting for it gives. A list is replaced as
a whole. This also holds of a record that the file writes as a list: as soon as a variable names one
of its keys, the items of the list are gone, and the other keys have their built-in values.

* `given`: the setting of a key, from the environment or from the file;
* `Layered`: all keys of a configuration have the values of their settings;
* `reads_of_overlay_laid`, `reads_of_overlay_builtin`: one key, from two layers;
* `reads_given`: a field of a record, from all three;
* `layered_of_ofSetting`: what is read from the layers is layered.
-/

namespace PrintClient.Config

open Setting

variable {α : Type} {file : Setting} {vs : List (List String × Setting)} {path record : List String}
  {index : Nat} {key : String} {read : Setting → Except Fault α} {default : Option α} {a : α}
  {s : Setting}

/-! ### The setting of a key -/

/-- The setting of the variable that names a path. -/
def named (vs : List (List String × Setting)) (path : List String) : Option Setting :=
  (vs.find? fun v => v.1 = path).map Prod.snd

/-- The setting of a key of a record: the one of the variable that names it, or else the one of the
file. A list that the file has in place of the record gives it only if no variable names another key
of the record. -/
def given (file : Setting) (vs : List (List String × Setting)) (record : List String) (index : Nat)
    (key : String) : Option Setting :=
  match named vs (record ++ [key]) with
  | some s => some s
  | none =>
    if ∃ v ∈ vs, record <+: v.1 then file.at? (record ++ [key])
    else (file.at? record).bind (field index key)

/-- All keys of a configuration have the values of their settings. -/
structure Layered (file : Setting) (vs : List (List String × Setting)) (c : Config) : Prop where
  defaultProfile : Reads readText (some Config.builtin.defaultProfile)
    ((Config.named vs ["default_profile"]).or (file.at? ["default_profile"])) c.defaultProfile
  defaults : ReadsDefaults .builtin (given file vs ["defaults"]) c.defaults
  /-- A profile is there if the file or a variable names it. -/
  named : ∀ name, (Dict.find? name c.profiles).isSome ↔
    (file.at? ["profiles", name]).isSome ∨ ∃ v ∈ vs, ["profiles", name] <+: v.1
  profile : ∀ name p, Dict.find? name c.profiles = some p →
    ReadsProfile (.ofHost "") none (given file vs ["profiles", name]) p

/-! ### Readers of single values -/

/-- A reader that takes no table. -/
def RefusesTables (read : Setting → Except Fault α) : Prop :=
  ∀ entries a, read (.table entries) ≠ .ok a

theorem refusesTables_readText : RefusesTables readText := fun _ _ h => by cases h

theorem refusesTables_readSeconds : RefusesTables readSeconds := fun _ _ h => by cases h

theorem refusesTables_readPort : RefusesTables readPort := fun _ _ h => by cases h

theorem refusesTables_readSecondsList : RefusesTables readSecondsList := fun _ _ h => by cases h

theorem RefusesTables.optional (h : RefusesTables read) : RefusesTables (readOptional read) := by
  intro entries a hread
  cases hvalue : read (.table entries) with
  | ok b => exact h entries b hvalue
  | error fault =>
    rw [readOptional, hvalue] at hread
    cases hread

/-- What is read from a setting laid over another is read from the upper one. -/
theorem RefusesTables.of_onto (h : RefusesTables read) {lower : Option Setting}
    (hread : read (onto lower s) = .ok a) : read s = .ok a := by
  cases lower with
  | none => exact hread
  | some lower =>
    obtain ⟨above, rfl⟩ | hother := table_or_not s
    · obtain ⟨entries, htable⟩ := exists_onto_table (some lower) above
      rw [Option.some_inj.1 htable] at hread
      exact absurd hread (h entries a)
    · rwa [onto, overlay_of_not_table hother] at hread

/-! ### The environment over the rest -/

section Layers

variable {base : Setting}

theorem mem_of_named (h : named vs path = some s) : (path, s) ∈ vs := by
  obtain ⟨v, hfind, rfl⟩ := Option.map_eq_some_iff.1 h
  have hpath := List.find?_some hfind
  obtain rfl : v.1 = path := of_decide_eq_true hpath
  exact List.mem_of_find?_eq_some hfind

theorem ne_of_named (h : named vs path = none) : ∀ v ∈ vs, v.1 ≠ path := by
  intro v hv heq
  have hfind := List.find?_eq_none.1 (Option.map_eq_none_iff.1 h) v hv
  exact hfind (decide_eq_true heq)

/-- Whatever leads to a record leads through records only. -/
theorem leadsToRecord_above (h : leadsToRecord record = true) (hpath : path <+: record) :
    leadsToRecord path = true := by
  match record, h with
  | [], _ =>
    rw [List.prefix_nil.1 hpath]
    rfl
  | [key], h =>
    rcases List.prefix_cons_iff.1 hpath with rfl | ⟨rest, rfl, hrest⟩
    · rfl
    · rw [List.prefix_nil.1 hrest]
      exact h
  | [key, name], h =>
    rcases List.prefix_cons_iff.1 hpath with rfl | ⟨rest, rfl, hrest⟩
    · rfl
    · rcases List.prefix_cons_iff.1 hrest with rfl | ⟨tail, rfl, htail⟩
      · simp [leadsToRecord, of_decide_eq_true h]
      · rw [List.prefix_nil.1 htail]
        exact h
  | _ :: _ :: _ :: _, h => cases h

theorem not_prefix_of_leadsToRecord (hindependent : Independent (vs.map Prod.fst))
    (h : leadsToRecord record = true) : ∀ v ∈ vs, ¬ v.1 <+: record := by
  intro v hv hprefix
  have hkey := hindependent.key v.1 (List.mem_map_of_mem hv)
  rw [leadsToRecord_above h hprefix] at hkey
  cases hkey

/-- No variable names a key above a key of a record. -/
theorem eq_of_prefix_key (hindependent : Independent (vs.map Prod.fst))
    (h : leadsToRecord record = true) :
    ∀ v ∈ vs, v.1 <+: record ++ [key] → v.1 = record ++ [key] := by
  intro v hv hprefix
  exact (List.prefix_concat_iff.1 hprefix).resolve_right
    (not_prefix_of_leadsToRecord hindependent h v hv)

/-- Where variables name keys below, there is a table. -/
theorem exists_table_of_inner (base : Setting) (hvs : ∀ v ∈ vs, v.2.Ordered)
    (hfree : ∀ v ∈ vs, ¬ v.1 <+: path) (h : ∃ v ∈ vs, path <+: v.1) :
    ∃ entries, (base.overlay (laid vs)).at? path = some (.table entries) := by
  obtain ⟨above, htable⟩ := at?_laid_of_inner hvs hfree h
  rw [at?_overlay_laid hvs fun v hv hprefix => absurd hprefix (hfree v hv), htable]
  exact exists_onto_table _ _

/-- A value of a key is the one of the variable that names it, or the one that was there. -/
theorem reads_of_overlay_laid (hindependent : Independent (vs.map Prod.fst))
    (hvs : ∀ v ∈ vs, v.2.Ordered) (hrecord : leadsToRecord record = true)
    (hread : RefusesTables read)
    (h : Reads read default ((base.overlay (laid vs)).at? (record ++ [key])) a) :
    Reads read default ((named vs (record ++ [key])).or (base.at? (record ++ [key]))) a := by
  have hne : record ++ [key] ≠ [] := List.append_ne_nil_of_right_ne_nil _ (List.cons_ne_nil _ _)
  rw [at?_overlay_laid hvs (eq_of_prefix_key hindependent hrecord)] at h
  cases hnamed : named vs (record ++ [key]) with
  | some s =>
    rw [at?_laid_of_mem hvs hindependent.separate hne (mem_of_named hnamed)] at h
    exact hread.of_onto h
  | none =>
    have hfree : ∀ v ∈ vs, ¬ v.1 <+: record ++ [key] := fun v hv hprefix =>
      ne_of_named hnamed v hv (eq_of_prefix_key hindependent hrecord v hv hprefix)
    by_cases hinner : ∃ v ∈ vs, record ++ [key] <+: v.1
    · -- a variable of a longer path would put a table in the place of the value
      obtain ⟨entries, htable⟩ := at?_laid_of_inner hvs hfree hinner
      rw [htable] at h
      exact absurd (hread.of_onto h) (hread entries a)
    · have hseparate : ∀ v ∈ vs, Separate v.1 (record ++ [key]) := fun v hv =>
        ⟨hfree v hv, fun hprefix => hinner ⟨v, hv, hprefix⟩⟩
      rw [at?_laid_of_separate hvs hne hseparate] at h
      exact h

/-! ### The file over the built-in values -/

/-- What the built-in values have for a key is its default. -/
structure BuiltinReads (read : Setting → Except Fault α) (default : Option α) (record : List String)
    (key : String) : Prop where
  value : ∀ s a, builtinSetting.at? (record ++ [key]) = some s → read s = .ok a → default = some a
  table : ∀ s, builtinSetting.at? record = some s → ∃ entries, s = .table entries

theorem BuiltinReads.field (h : BuiltinReads read default record key)
    (hread : Reads read default ((builtinSetting.at? record).bind (field index key)) a) :
    default = some a := by
  cases hbuiltin : builtinSetting.at? record with
  | none =>
    rw [hbuiltin] at hread
    exact hread
  | some s =>
    obtain ⟨entries, rfl⟩ := h.table s hbuiltin
    have hkey := at?_concat hbuiltin key
    rw [hbuiltin] at hread
    cases hfind : Dict.find? key entries with
    | none =>
      rw [Option.bind_some, Setting.field, hfind] at hread
      exact hread
    | some t =>
      rw [Option.bind_some, Setting.field, hfind] at hread
      exact h.value t a (hkey.trans hfind) hread

/-- A value of a key is the one of the file, or the default. -/
theorem reads_of_overlay_builtin (hbuiltin : BuiltinReads read default record key)
    (hfile : file.Ordered) (hread : RefusesTables read)
    (h : Reads read default ((builtinSetting.overlay file).at? (record ++ [key])) a) :
    Reads read default (file.at? (record ++ [key])) a := by
  rw [at?_overlay hfile] at h
  cases hat : file.at? (record ++ [key]) with
  | some s =>
    rw [hat] at h
    exact hread.of_onto h
  | none =>
    rw [hat] at h
    dsimp only at h
    split at h
    · exact h
    · cases hvalue : builtinSetting.at? (record ++ [key]) with
      | none =>
        rw [hvalue] at h
        exact h
      | some s =>
        rw [hvalue] at h
        exact hbuiltin.value s a hvalue h

/-- So is the value of a field, whether the file writes the record as a table or as a list. -/
theorem reads_of_field_overlay_builtin (hbuiltin : BuiltinReads read default record key)
    (hfile : file.Ordered) (hread : RefusesTables read)
    (h : Reads read default (((builtinSetting.overlay file).at? record).bind (field index key)) a) :
    Reads read default ((file.at? record).bind (field index key)) a := by
  rw [at?_overlay hfile] at h
  cases hat : file.at? record with
  | none =>
    rw [hat] at h
    dsimp only at h
    split at h
    · exact h
    · exact hbuiltin.field h
  | some s =>
    rw [hat] at h
    dsimp only at h
    cases hbelow : builtinSetting.at? record with
    | none =>
      rw [hbelow] at h
      exact h
    | some t =>
      rw [hbelow] at h
      obtain ⟨above, rfl⟩ | hother := table_or_not s
      · obtain ⟨below, rfl⟩ := hbuiltin.table t hbelow
        rw [onto, overlay_table, Option.bind_some, Setting.field,
          find?_overlayTable (hfile record above hat)] at h
        rw [Option.bind_some, Setting.field]
        cases hfind : Dict.find? key above with
        | some u =>
          rw [hfind] at h
          exact hread.of_onto h
        | none =>
          rw [hfind] at h
          have hfield :
              Reads read default ((builtinSetting.at? record).bind (field index key)) a := by
            rw [hbelow]
            exact h
          exact hbuiltin.field hfield
      · rwa [onto, overlay_of_not_table hother] at h

/-- **A field of a record has the value of its setting.** -/
theorem reads_given (hindependent : Independent (vs.map Prod.fst)) (hvs : ∀ v ∈ vs, v.2.Ordered)
    (hrecord : leadsToRecord record = true) (hne : record ≠ [])
    (hbuiltin : BuiltinReads read default record key) (hfile : file.Ordered)
    (hread : RefusesTables read)
    (h : Reads read default
      ((((builtinSetting.overlay file).overlay (laid vs)).at? record).bind (field index key)) a) :
    Reads read default (given file vs record index key) a := by
  have hfree := not_prefix_of_leadsToRecord hindependent hrecord
  unfold given
  by_cases hinner : ∃ v ∈ vs, record <+: v.1
  · -- the variables make the record a table, so its fields stand under their keys
    obtain ⟨entries, htable⟩ := exists_table_of_inner (builtinSetting.overlay file) hvs hfree hinner
    rw [htable, Option.bind_some, Setting.field, ← at?_concat htable] at h
    have hvalue := reads_of_overlay_laid hindependent hvs hrecord hread h
    cases hnamed : named vs (record ++ [key]) with
    | some s =>
      rw [hnamed] at hvalue
      exact hvalue
    | none =>
      rw [hnamed] at hvalue
      dsimp only
      rw [if_pos hinner]
      exact reads_of_overlay_builtin hbuiltin hfile hread hvalue
  · have hnamed : named vs (record ++ [key]) = none := by
      cases hnamed : named vs (record ++ [key]) with
      | none => rfl
      | some s => exact absurd ⟨_, mem_of_named hnamed, List.prefix_append record [key]⟩ hinner
    have hseparate : ∀ v ∈ vs, Separate v.1 record := fun v hv =>
      ⟨hfree v hv, fun hprefix => hinner ⟨v, hv, hprefix⟩⟩
    rw [at?_overlay_laid hvs fun v hv hprefix => absurd hprefix (hfree v hv),
      at?_laid_of_separate hvs hne hseparate] at h
    rw [hnamed]
    dsimp only
    rw [if_neg hinner]
    exact reads_of_field_overlay_builtin hbuiltin hfile hread h

/-! ### The built-in values -/

theorem ordered_builtinSetting : builtinSetting.Ordered := by
  have hlaid : builtinSetting = laid [
      (["default_profile"], .text Config.builtin.defaultProfile),
      (["defaults", "backoff_secs"], .list (Defaults.builtin.backoff.map .unsigned)),
      (["defaults", "request_timeout_secs"], .unsigned Defaults.builtin.requestTimeout),
      (["profiles"], .table [])] := rfl
  rw [hlaid]
  refine ordered_laidOn ordered_table_nil fun v hv => ?_
  simp only [List.mem_cons, List.not_mem_nil, or_false] at hv
  rcases hv with rfl | rfl | rfl | rfl
  · exact ordered_of_not_table nofun
  · exact ordered_of_not_table nofun
  · exact ordered_of_not_table nofun
  · exact ordered_table_nil

/-- A built-in value that is read as its default. -/
theorem builtinReads_of_at? {entries : Dict Setting}
    (hrecord : builtinSetting.at? record = some (.table entries))
    (hvalue : Dict.find? key entries = some s) (hread : ∀ a, read s = .ok a → default = some a) :
    BuiltinReads read default record key where
  value t a hat h := by
    rw [at?_concat hrecord, hvalue] at hat
    exact hread a (Option.some_inj.1 hat ▸ h)
  table t hat := ⟨entries, Option.some_inj.1 (hat.symm.trans hrecord)⟩

theorem builtinReads_default_profile :
    BuiltinReads readText (some Config.builtin.defaultProfile) [] "default_profile" :=
  builtinReads_of_at? rfl rfl some_of_ok

theorem builtinReads_request_timeout :
    BuiltinReads readSeconds (some Defaults.builtin.requestTimeout) ["defaults"]
      "request_timeout_secs" :=
  builtinReads_of_at? rfl rfl some_of_ok

theorem builtinReads_backoff :
    BuiltinReads readSecondsList (some Defaults.builtin.backoff) ["defaults"] "backoff_secs" :=
  builtinReads_of_at? rfl rfl some_of_ok

/-- There are no built-in profiles. -/
theorem builtinReads_profile (name : String) :
    BuiltinReads read default ["profiles", name] key where
  value s a hat h := by cases hat
  table s hat := by cases hat

/-! ### All keys -/

section Read

variable (hindependent : Independent (vs.map Prod.fst)) (hvs : ∀ v ∈ vs, v.2.Ordered)
  (hfile : file.Ordered)

include hindependent hvs hfile

theorem isSome_at?_profile (name : String) :
    (((builtinSetting.overlay file).overlay (laid vs)).at? ["profiles", name]).isSome ↔
      (file.at? ["profiles", name]).isSome ∨ ∃ v ∈ vs, ["profiles", name] <+: v.1 := by
  have hrecord : leadsToRecord ["profiles", name] = true := rfl
  have hfree := not_prefix_of_leadsToRecord hindependent hrecord
  by_cases hinner : ∃ v ∈ vs, ["profiles", name] <+: v.1
  · obtain ⟨entries, htable⟩ := exists_table_of_inner (builtinSetting.overlay file) hvs hfree hinner
    rw [htable]
    exact ⟨fun _ => .inr hinner, fun _ => rfl⟩
  · have hseparate : ∀ v ∈ vs, Separate v.1 ["profiles", name] := fun v hv =>
      ⟨hfree v hv, fun hprefix => hinner ⟨v, hv, hprefix⟩⟩
    rw [at?_overlay_laid hvs fun v hv hprefix => absurd hprefix (hfree v hv),
      at?_laid_of_separate hvs (List.cons_ne_nil _ _) hseparate, or_iff_left hinner]
    dsimp only
    rw [at?_overlay hfile]
    cases file.at? ["profiles", name] with
    | some s => exact ⟨fun _ => rfl, fun _ => rfl⟩
    | none =>
      dsimp only
      split
      · rfl
      · rfl

/-- **What is read from the three layers has all its values from the uppermost layer that gives
them.** -/
theorem layered_of_ofSetting {c : Config}
    (h : ofSetting ((builtinSetting.overlay file).overlay (laid vs)) = .ok c) :
    Layered file vs c := by
  have hordered : ((builtinSetting.overlay file).overlay (laid vs)).Ordered :=
    ordered_overlay (ordered_overlay ordered_builtinSetting hfile)
      (ordered_laidOn ordered_table_nil hvs)
  have hreads := reads_of_ofSetting hordered h
  -- the profile of a name, and the setting that it is read from
  have hprofile (name : String) :
      match ((builtinSetting.overlay file).overlay (laid vs)).at? ["profiles", name] with
      | some s => ∃ p, Dict.find? name c.profiles = some p ∧ readProfile s = .ok p
      | none => Dict.find? name c.profiles = none := by
    have hfound := find?_of_reads_profiles hreads.profiles name
    rwa [← at?_append] at hfound
  have hdefaults := reads_of_reads_defaults (fun s => hordered.at?) hreads.defaults
  refine ⟨?_, ⟨?_, ?_⟩, fun name => ?_, fun name p hp => ?_⟩
  · have hvalue : Reads readText (some Config.builtin.defaultProfile)
        ((named vs ([] ++ ["default_profile"])).or
          ((builtinSetting.overlay file).at? ([] ++ ["default_profile"]))) c.defaultProfile :=
      reads_of_overlay_laid hindependent hvs rfl refusesTables_readText hreads.defaultProfile
    cases hnamed : named vs ["default_profile"] with
    | some s =>
      rw [List.nil_append, hnamed] at hvalue
      exact hvalue
    | none =>
      rw [List.nil_append, hnamed] at hvalue
      exact reads_of_overlay_builtin builtinReads_default_profile hfile refusesTables_readText
        hvalue
  · exact reads_given hindependent hvs rfl (List.cons_ne_nil _ _) builtinReads_request_timeout hfile
      refusesTables_readSeconds hdefaults.requestTimeout
  · exact reads_given hindependent hvs rfl (List.cons_ne_nil _ _) builtinReads_backoff hfile
      refusesTables_readSecondsList hdefaults.backoff
  · rw [← isSome_at?_profile hindependent hvs hfile]
    have hfound := hprofile name
    split at hfound
    · rename_i s hs
      obtain ⟨p, hp, -⟩ := hfound
      rw [hp, hs]
      exact ⟨fun _ => rfl, fun _ => rfl⟩
    · rename_i hnone
      simp only [hfound, hnone, Option.isSome_none]
  · have hfound := hprofile name
    split at hfound
    · rename_i s hs
      obtain ⟨q, hq, hread⟩ := hfound
      obtain rfl : q = p := Option.some_inj.1 (hq.symm.trans hp)
      have hfields := reads_of_readProfile (hordered.at? hs) hread
      have hgiven {β : Type} {read : Setting → Except Fault β} {default : Option β} {b : β}
          {index : Nat} {key : String} (hrefuses : RefusesTables read)
          (h : Reads read default (s.field index key) b) :
          Reads read default (given file vs ["profiles", name] index key) b := by
        refine reads_given hindependent hvs rfl (List.cons_ne_nil _ _) (builtinReads_profile name)
          hfile hrefuses ?_
        rw [hs]
        exact h
      exact ⟨hgiven refusesTables_readText hfields.host,
        hgiven refusesTables_readPort hfields.port,
        hgiven refusesTables_readText.optional hfields.apiKey,
        hgiven refusesTables_readText.optional hfields.apiKeyEnv,
        hgiven refusesTables_readSeconds.optional hfields.requestTimeout⟩
    · rw [hfound] at hp
      cases hp

end Read

end Layers

end PrintClient.Config
