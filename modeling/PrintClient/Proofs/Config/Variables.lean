import Mathlib.Data.List.Basic
import Mathlib.Data.List.Pairwise
import PrintClient.Proofs.Config.Sources

/-!
# The settings of the environment

Every variable of the program puts one setting at the end of its path. Where no path leads through
another, the settings do not touch each other: each is found at the end of its path as its variable
gives it, there are only tables on the way, and the order of the variables does not matter. Neither
does the case of their names.

* `namedSettings`, `laid`: the settings of the variables, and all of them in one table;
* `ofEnvironment_eq`: this table is what the environment contributes;
* `Independent`: every variable names a key of its own;
* `at?_laid_of_mem`, `at?_laid_of_separate`, `at?_laid_of_inner`: what stands in the table;
* `laid_perm`, `namedSettings_perm`: order and case.
-/

namespace PrintClient

namespace Config

open Setting

variable {path : List String} {s : Setting} {v : List String × Setting}
  {vs ws : List (List String × Setting)} {env : Environment}

/-- The settings of the variables with their paths. -/
def namedSettings (env : Environment) : List (List String × Setting) :=
  env.filterMap fun v => (settingPath? v.1).map fun path => (path, readSetting v.2)

/-- Settings laid over a setting, each at the end of its path. -/
def laidOn (lower : Setting) (vs : List (List String × Setting)) : Setting :=
  vs.foldl (fun lower v => lower.overlay (nested v.1 v.2)) lower

/-- The table that settings make, each at the end of its path. -/
def laid (vs : List (List String × Setting)) : Setting := laidOn (.table []) vs

/-! ### What the environment contributes -/

theorem keysOf_ne_nil (cs : List Char) : keysOf cs ≠ [] := by
  cases cs with
  | nil => exact List.cons_ne_nil _ _
  | cons c cs =>
    rw [keysOf, List.foldr_cons]
    split
    · exact List.cons_ne_nil _ _
    · split <;> exact List.cons_ne_nil _ _

/-- A variable names at least one key. -/
theorem ne_nil_of_settingPath? {name : String} (h : settingPath? name = some path) : path ≠ [] := by
  unfold settingPath? at h
  dsimp only at h
  split at h
  · split at h
    · exact absurd h (Option.some_ne_none _).symm
    · rw [← Option.some_inj.1 h]
      exact fun hnil => keysOf_ne_nil _ (List.map_eq_nil_iff.1 hnil)
  · exact absurd h (Option.some_ne_none _).symm

theorem ordered_of_mem_namedSettings (h : v ∈ namedSettings env) : v.2.Ordered := by
  obtain ⟨p, -, hv⟩ := List.mem_filterMap.1 h
  obtain ⟨path, -, rfl⟩ := Option.map_eq_some_iff.1 hv
  exact ordered_readSetting p.2

/-- Variables that name no setting leave a table as it is. -/
theorem foldl_ofVariable (env : Environment) (entries : Dict Setting) :
    env.foldl (fun lower v => lower.overlay (ofVariable v.1 v.2)) (.table entries) =
      laidOn (.table entries) (namedSettings env) := by
  induction env generalizing entries with
  | nil => rfl
  | cons p env ih =>
    rw [List.foldl_cons, namedSettings, List.filterMap_cons, ofVariable]
    cases hpath : settingPath? p.1 with
    | none => exact ih entries
    | some path =>
      cases path with
      | nil => exact absurd rfl (ne_nil_of_settingPath? hpath)
      | cons key path =>
        simp only [Option.map_some, laidOn, List.foldl_cons, overlay_nested_cons]
        exact ih _

theorem ofEnvironment_eq (env : Environment) : ofEnvironment env = laid (namedSettings env) :=
  foldl_ofVariable env []

/-! ### Paths apart from each other -/

/-- Neither of two paths leads through the end of the other. -/
def Separate (p q : List String) : Prop := ¬ p <+: q ∧ ¬ q <+: p

theorem Separate.symm {p q : List String} (h : Separate p q) : Separate q p := ⟨h.2, h.1⟩

instance : Std.Symm fun v w : List String × Setting => Separate v.1 w.1 :=
  ⟨fun _ _ => Separate.symm⟩

/-- Whether a path leads to a record or to all the profiles, and not to a key of a record. -/
def leadsToRecord : List String → Bool
  | [] => true
  | [key] => key = "defaults" || key = "profiles"
  | [key, _] => key = "profiles"
  | _ => false

/-- Every variable names a key of its own: no path leads through another, and none ends at a
record. -/
structure Independent (paths : List (List String)) : Prop where
  separate : paths.Pairwise Separate
  key : ∀ path ∈ paths, leadsToRecord path = false

instance (paths : List (List String)) : Decidable (Independent paths) :=
  decidable_of_iff ((paths.Pairwise fun p q => ¬ p <+: q ∧ ¬ q <+: p) ∧
    ∀ path ∈ paths, leadsToRecord path = false)
    ⟨fun h => ⟨h.1, h.2⟩, fun h => ⟨h.separate, h.key⟩⟩

/-! ### What stands in the table -/

section Laid

variable {lower : Setting}

theorem laidOn_cons (lower : Setting) (v : List String × Setting)
    (vs : List (List String × Setting)) :
    laidOn lower (v :: vs) = laidOn (lower.overlay (nested v.1 v.2)) vs := rfl

theorem laidOn_append (lower : Setting) (vs ws : List (List String × Setting)) :
    laidOn lower (vs ++ ws) = laidOn (laidOn lower vs) ws := List.foldl_append

theorem ordered_laidOn (hlower : lower.Ordered) (hvs : ∀ v ∈ vs, v.2.Ordered) :
    (laidOn lower vs).Ordered := by
  induction vs generalizing lower with
  | nil => exact hlower
  | cons v vs ih =>
    rw [List.forall_mem_cons] at hvs
    exact ih (ordered_overlay hlower (ordered_nested hvs.1 v.1)) hvs.2

/-- Settings elsewhere leave what stands at the end of a path. -/
theorem at?_laidOn_of_separate (hvs : ∀ v ∈ vs, v.2.Ordered) (h : ∀ v ∈ vs, Separate v.1 path) :
    (laidOn lower vs).at? path = lower.at? path := by
  induction vs generalizing lower with
  | nil => rfl
  | cons v vs ih =>
    rw [List.forall_mem_cons] at hvs h
    obtain ⟨hnone, hshown⟩ := at?_nested_elsewhere h.1.2 h.1.1 v.2
    rw [laidOn_cons, ih hvs.2 h.2, at?_overlay (ordered_nested hvs.1 v.1), hnone, hshown]
    rfl

/-- No setting is in the way to the end of a path that leads through no end of another. -/
theorem hides_laidOn (hvs : ∀ v ∈ vs, v.2.Ordered) (h : ∀ v ∈ vs, v.1 <+: path → v.1 = path)
    (hlower : lower.hides path = false) : (laidOn lower vs).hides path = false := by
  induction vs generalizing lower with
  | nil => exact hlower
  | cons v vs ih =>
    rw [List.forall_mem_cons] at hvs h
    refine ih hvs.2 h.2 (hides_overlay (ordered_nested hvs.1 v.1) hlower ?_)
    by_cases hprefix : path <+: v.1
    · obtain ⟨rest, hrest⟩ := hprefix
      rw [← hrest]
      exact hides_nested path rest v.2
    · exact (at?_nested_elsewhere hprefix (fun hv => hprefix (h.1 hv ▸ List.prefix_rfl)) v.2).2

/-- Beneath the end of a path there is a table once a setting was put there. -/
theorem exists_table_laidOn (hvs : ∀ v ∈ vs, v.2.Ordered) (hfree : ∀ v ∈ vs, ¬ v.1 <+: path)
    (h : (∃ entries, lower.at? path = some (.table entries)) ∨ ∃ v ∈ vs, path <+: v.1) :
    ∃ entries, (laidOn lower vs).at? path = some (.table entries) := by
  induction vs generalizing lower with
  | nil => exact h.resolve_right fun ⟨v, hv, _⟩ => absurd hv List.not_mem_nil
  | cons v vs ih =>
    rw [List.forall_mem_cons] at hvs hfree
    refine ih hvs.2 hfree.2 ?_
    rw [at?_overlay (ordered_nested hvs.1 v.1)]
    by_cases hprefix : path <+: v.1
    · left
      obtain ⟨rest, hrest⟩ := hprefix
      cases rest with
      | nil =>
        rw [List.append_nil] at hrest
        exact absurd (hrest ▸ List.prefix_rfl) hfree.1
      | cons key rest =>
        rw [← hrest, at?_nested, nested_cons]
        exact exists_onto_table _ _
    · obtain ⟨hnone, hshown⟩ := at?_nested_elsewhere hprefix hfree.1 v.2
      rw [hnone, hshown]
      refine h.imp id ?_
      rintro ⟨w, hw, hpath⟩
      rcases List.mem_cons.1 hw with rfl | hw
      · exact absurd hpath hprefix
      · exact ⟨w, hw, hpath⟩

/-! ### The table of the variables -/

theorem at?_nil_table (hne : path ≠ []) : (table []).at? path = none := by
  cases path with
  | nil => exact absurd rfl hne
  | cons key path => rfl

/-- The setting of a variable stands at the end of its path. -/
theorem at?_laid_of_mem (hvs : ∀ v ∈ vs, v.2.Ordered) (h : (vs.map Prod.fst).Pairwise Separate)
    (hne : path ≠ []) (hmem : (path, s) ∈ vs) : (laid vs).at? path = some s := by
  obtain ⟨before, after, rfl⟩ := List.append_of_mem hmem
  simp only [List.map_append, List.map_cons, List.pairwise_append, List.pairwise_cons] at h
  obtain ⟨-, ⟨hafter, -⟩, hbefore⟩ := h
  simp only [List.forall_mem_append, List.forall_mem_cons] at hvs
  have hlower : (laidOn (table []) before).at? path = none := by
    rw [at?_laidOn_of_separate hvs.1, at?_nil_table hne]
    exact fun v hv => hbefore v.1 (List.mem_map_of_mem hv) path List.mem_cons_self
  have hnested := at?_nested path [] s
  rw [List.append_nil] at hnested
  rw [laid, laidOn_append, laidOn_cons, at?_laidOn_of_separate hvs.2.2,
    at?_overlay (ordered_nested hvs.2.1 path), hnested, hlower]
  · rfl
  · exact fun v hv => (hafter v.1 (List.mem_map_of_mem hv)).symm

/-- Where no path leads, nothing stands. -/
theorem at?_laid_of_separate (hvs : ∀ v ∈ vs, v.2.Ordered) (hne : path ≠ [])
    (h : ∀ v ∈ vs, Separate v.1 path) : (laid vs).at? path = none := by
  rw [laid, at?_laidOn_of_separate hvs h, at?_nil_table hne]

/-- On the way to the settings there are tables. -/
theorem at?_laid_of_inner (hvs : ∀ v ∈ vs, v.2.Ordered) (hfree : ∀ v ∈ vs, ¬ v.1 <+: path)
    (h : ∃ v ∈ vs, path <+: v.1) : ∃ entries, (laid vs).at? path = some (.table entries) :=
  exists_table_laidOn hvs hfree (.inr h)

/-- **What stands at the end of a path after the table of the variables was laid over a
setting.** -/
theorem at?_overlay_laid (hvs : ∀ v ∈ vs, v.2.Ordered)
    (hfree : ∀ v ∈ vs, v.1 <+: path → v.1 = path) :
    (lower.overlay (laid vs)).at? path =
      match (laid vs).at? path with
      | some s => some (onto (lower.at? path) s)
      | none => lower.at? path := by
  have hshown : (laid vs).hides path = false := by
    refine hides_laidOn hvs hfree ?_
    cases path <;> rfl
  have hordered : (laid vs).Ordered := ordered_laidOn ordered_table_nil hvs
  rw [at?_overlay hordered, hshown]
  rfl

/-- **The order of the settings does not matter.** -/
theorem laid_perm (h : (vs.map Prod.fst).Pairwise Separate) (hperm : vs.Perm ws) :
    laid vs = laid ws := by
  have hseparate : ∀ v ∈ vs, ∀ w ∈ vs, v ≠ w → Separate v.1 w.1 :=
    fun _ hv _ hw => (List.pairwise_map.1 h).forall hv hw
  refine hperm.foldl_eq' (fun v hv w hw lower => ?_) _
  by_cases heq : v = w
  · rw [heq]
  · obtain ⟨hvw, hwv⟩ := hseparate v hv w hw heq
    exact overlay_nested_comm hvw hwv lower

end Laid

/-! ### The case of names -/

/-- The name of a variable in lower case, and its value. -/
def lowered (v : String × String) : List Char × String := (v.1.toList.map Char.toLower, v.2)

/-- Lower case changes capital letters only. -/
theorem toLower_of_not_capital {c : Char} (h : ¬ (65 ≤ c.toNat ∧ c.toNat ≤ 90)) :
    c.toLower = c := by
  have hnot : ¬ (c.val ≥ 'A'.val ∧ c.val ≤ 'Z'.val) := fun ⟨hge, hle⟩ =>
    h ⟨UInt32.le_iff_toNat_le.1 hge, UInt32.le_iff_toNat_le.1 hle⟩
  exact dif_neg hnot

/-- Lower case stays as it is, and the case of a character does not make it a blank. -/
theorem toLower_toLower_and_isBlank (c : Char) :
    c.toLower.toLower = c.toLower ∧ Text.isBlank c.toLower = Text.isBlank c := by
  have hcapitals : ∀ n ≤ 90, 65 ≤ n → (Char.ofNat n).toLower.toLower = (Char.ofNat n).toLower ∧
      Text.isBlank (Char.ofNat n).toLower = Text.isBlank (Char.ofNat n) := by
    decide
  by_cases h : 65 ≤ c.toNat ∧ c.toNat ≤ 90
  · simpa only [Char.ofNat_toNat] using hcapitals c.toNat h.2 h.1
  · rw [toLower_of_not_capital h, toLower_of_not_capital h]
    exact ⟨rfl, rfl⟩

theorem trimChars_map_toLower (cs : List Char) :
    Text.trimChars (cs.map Char.toLower) = (Text.trimChars cs).map Char.toLower := by
  have hblank : Text.isBlank ∘ Char.toLower = Text.isBlank :=
    funext fun c => (toLower_toLower_and_isBlank c).2
  unfold Text.trimChars
  rw [List.dropWhile_map, hblank, ← List.map_reverse, List.dropWhile_map, hblank, List.map_reverse]

/-- Which setting a variable names does not depend on the case of its name. -/
theorem settingPath?_lowered (name : String) :
    settingPath? (String.ofList (name.toList.map Char.toLower)) = settingPath? name := by
  unfold settingPath?
  have htwice : Char.toLower ∘ Char.toLower = Char.toLower :=
    funext fun c => (toLower_toLower_and_isBlank c).1
  rw [String.toList_ofList, trimChars_map_toLower, List.map_map, htwice]

/-- **The same variables in another order and in another case are the same settings.** -/
theorem namedSettings_perm {env' : Environment} (h : (env.map lowered).Perm (env'.map lowered)) :
    (namedSettings env).Perm (namedSettings env') := by
  have hlowered (env : Environment) : namedSettings env = (env.map lowered).filterMap fun v =>
      (settingPath? (String.ofList v.1)).map fun path => (path, readSetting v.2) := by
    rw [namedSettings, List.filterMap_map]
    refine List.filterMap_congr fun v _ => ?_
    rw [Function.comp_apply, lowered, settingPath?_lowered]
  rw [hlowered, hlowered]
  exact h.filterMap _

end Config

end PrintClient
