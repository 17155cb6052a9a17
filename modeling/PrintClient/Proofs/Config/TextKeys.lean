import PrintClient.Proofs.Config.Layers
import PrintClient.Proofs.Config.Loading
import PrintClient.Proofs.Config.Words

/-!
# Keys that hold texts

The default profile and, in a profile, the host, the API key and the name of the variable with the
key are texts. A variable that gives one of them is read before anybody knows that a text is
wanted. So letters and digits arrive as they are written, unless they spell a truth value or a
whole number: then no configuration can be loaded at all. A profile that is written as a list of its
fields is replaced by such a variable.

* `TextKey`: these keys, their paths and the variables that give them;
* `settingPath?_variableName`: what these variables name;
* `namedSettings_insert`, `ofEnvironment_insert`: one variable more in the environment;
* `readProfile_overlay_text`, `ofSetting_overlay_text`: reading with another text at a key;
* `load_with_text`: when a text arrives.
-/

namespace PrintClient.Config

open Setting

/-! ### The keys -/

/-- The keys of a profile whose values are texts. -/
inductive ProfileText where
  | host
  | apiKey
  | apiKeyEnv
  deriving DecidableEq, Repr

namespace ProfileText

/-- The name of the key. -/
def name : ProfileText → String
  | host => "host"
  | apiKey => "api_key"
  | apiKeyEnv => "api_key_env"

/-- The profile with another text under the key. -/
def put (text : String) (p : Profile) : ProfileText → Profile
  | host => { p with host := text }
  | apiKey => { p with apiKey := some text }
  | apiKeyEnv => { p with apiKeyEnv := some text }

end ProfileText

/-- The keys of a configuration whose values are texts. -/
inductive TextKey where
  | defaultProfile
  | ofProfile (profile : String) (key : ProfileText)
  deriving DecidableEq, Repr

/-- The variable that names a path of keys, in capitals. -/
def variableName (path : List String) : String :=
  String.ofList
    ((variableStart ++ ['_', '_'].intercalate (path.map String.toList)).map Char.toUpper)

namespace TextKey

/-- Where the text stands. -/
def path : TextKey → List String
  | defaultProfile => ["default_profile"]
  | ofProfile profile key => ["profiles", profile, key.name]

/-- The configuration with another text under the key. -/
def put (text : String) (c : Config) : TextKey → Config
  | defaultProfile => { c with defaultProfile := text }
  | ofProfile profile key =>
    match Dict.find? profile c.profiles with
    | some p => { c with profiles := Dict.insert profile (key.put text p) c.profiles }
    | none => c

/-- The configuration has the record that the key belongs to. -/
def IsIn (c : Config) : TextKey → Prop
  | defaultProfile => True
  | ofProfile profile _ => (Dict.find? profile c.profiles).isSome = true

/-- The profile of the key has a name of lower-case letters and digits. -/
def IsPlain : TextKey → Prop
  | defaultProfile => True
  | ofProfile profile _ =>
    profile ≠ "" ∧ ∀ c ∈ profile.toList, c.isLower = true ∨ c.isDigit = true

instance : (key : TextKey) → Decidable key.IsPlain
  | defaultProfile => isTrue trivial
  | ofProfile profile _ => @instDecidableAnd _ _ _ (List.decidableBAll _ profile.toList)

/-- The settings have the profile of the key in list form. -/
def IsListed (s : Setting) : TextKey → Prop
  | defaultProfile => False
  | ofProfile profile _ => ∃ items, s.at? ["profiles", profile] = some (.list items)

end TextKey

/-! ### Names of variables -/

section Names

variable {c : Char} {cs rest : List Char} {keys : List String}

/-- Letters that a variable may spell a key with: capitals and small letters stand for each other,
and blanks and points do not occur. -/
structure IsKeyLetter (c : Char) : Prop where
  lower : c.toUpper.toLower = c
  blank : Text.isBlank c = false
  upperBlank : Text.isBlank c.toUpper = false
  point : c ≠ '.'

instance (c : Char) : Decidable (IsKeyLetter c) :=
  decidable_of_iff (c.toUpper.toLower = c ∧ Text.isBlank c = false ∧
    Text.isBlank c.toUpper = false ∧ c ≠ '.')
    ⟨fun h => ⟨h.1, h.2.1, h.2.2.1, h.2.2.2⟩, fun h => ⟨h.lower, h.blank, h.upperBlank, h.point⟩⟩

/-- For fixed letters each of them is checked. Other instances would go through all characters. -/
theorem isKeyLetter_of_all (h : cs.all (fun c => decide (IsKeyLetter c)) = true) :
    ∀ c ∈ cs, IsKeyLetter c := by
  simpa using h

/-- A key that a variable can spell: its underscores are not taken for a point. -/
structure IsSpelled (cs : List Char) : Prop where
  nonempty : cs ≠ []
  letter : ∀ c ∈ cs, IsKeyLetter c
  last : pointed cs = cs
  inner : ∀ rest, pointed (cs ++ '_' :: '_' :: rest) = cs ++ '.' :: pointed rest

theorem isKeyLetter_of_plain (h : c.isLower = true ∨ c.isDigit = true) :
    IsKeyLetter c ∧ c ≠ '_' := by
  have hrange : ∀ n ≤ 122, (97 ≤ n ∨ 48 ≤ n ∧ n ≤ 57) →
      IsKeyLetter (Char.ofNat n) ∧ Char.ofNat n ≠ '_' := by
    decide
  have hbounds : c.toNat ≤ 122 ∧ (97 ≤ c.toNat ∨ 48 ≤ c.toNat ∧ c.toNat ≤ 57) := by
    unfold Char.isLower Char.isDigit at h
    simp only [Bool.and_eq_true, decide_eq_true_eq, ge_iff_le, UInt32.le_iff_toNat_le] at h
    change (97 ≤ c.toNat ∧ c.toNat ≤ 122) ∨ (48 ≤ c.toNat ∧ c.toNat ≤ 57) at h
    omega
  simpa only [Char.ofNat_toNat] using hrange c.toNat hbounds.1 hbounds.2

theorem pointed_append (h : ∀ c ∈ cs, c ≠ '_') (rest : List Char) :
    pointed (cs ++ rest) = cs ++ pointed rest := by
  induction cs with
  | nil => rfl
  | cons c cs ih =>
    rw [List.forall_mem_cons] at h
    rw [List.cons_append, pointed, ih h.2]
    · rfl
    · intro _ heq
      exact absurd heq h.1

theorem isSpelled_of_plain (hne : cs ≠ [])
    (h : ∀ c ∈ cs, c.isLower = true ∨ c.isDigit = true) : IsSpelled cs := by
  have hpoint : ∀ c ∈ cs, c ≠ '_' := fun c hc => (isKeyLetter_of_plain (h c hc)).2
  refine ⟨hne, fun c hc => (isKeyLetter_of_plain (h c hc)).1, ?_, fun rest => ?_⟩
  · simpa [pointed] using pointed_append hpoint []
  · rw [pointed_append hpoint]
    rfl

theorem keysOf_append (h : ∀ c ∈ cs, c ≠ '.') (rest : List Char) :
    keysOf (cs ++ '.' :: rest) = cs :: keysOf rest := by
  induction cs with
  | nil => simp [keysOf]
  | cons c cs ih =>
    rw [List.forall_mem_cons] at h
    have hrest := ih h.2
    simp only [keysOf] at hrest
    simp [keysOf, hrest, h.1]

theorem keysOf_eq_singleton (hne : cs ≠ []) (h : ∀ c ∈ cs, c ≠ '.') : keysOf cs = [cs] := by
  induction cs with
  | nil => exact absurd rfl hne
  | cons c cs ih =>
    rw [List.forall_mem_cons] at h
    cases cs with
    | nil => simp [keysOf, h.1]
    | cons d cs =>
      have hrest := ih (List.cons_ne_nil d cs) h.2
      simp only [keysOf] at hrest
      rw [keysOf, List.foldr_cons, hrest]
      simp [h.1]

/-- The points between keys that a variable spells are where its double underscores are. -/
theorem keysOf_pointed_intercalate {keys : List (List Char)} (hne : keys ≠ [])
    (h : ∀ key ∈ keys, IsSpelled key) :
    keysOf (pointed (['_', '_'].intercalate keys)) = keys ∧
      ∀ c ∈ pointed (['_', '_'].intercalate keys), Text.isBlank c = false := by
  induction keys with
  | nil => exact absurd rfl hne
  | cons key keys ih =>
    rw [List.forall_mem_cons] at h
    have hpoint : ∀ c ∈ key, c ≠ '.' := fun c hc => (h.1.letter c hc).point
    have hblank : ∀ c ∈ key, Text.isBlank c = false := fun c hc => (h.1.letter c hc).blank
    cases keys with
    | nil =>
      rw [List.intercalate_singleton, h.1.last]
      exact ⟨keysOf_eq_singleton h.1.nonempty hpoint, hblank⟩
    | cons next keys =>
      obtain ⟨hkeys, hblanks⟩ := ih (List.cons_ne_nil next keys) h.2
      rw [List.intercalate_cons_cons, List.append_assoc]
      simp only [List.cons_append, List.nil_append]
      rw [h.1.inner, keysOf_append hpoint, hkeys]
      refine ⟨rfl, fun c hc => ?_⟩
      rcases List.mem_append.1 hc with hc | hc
      · exact hblank c hc
      · rcases List.mem_cons.1 hc with rfl | hc
        · decide
        · exact hblanks c hc

theorem isKeyLetter_of_mem_intercalate {keys : List (List Char)}
    (h : ∀ key ∈ keys, IsSpelled key) : ∀ c ∈ ['_', '_'].intercalate keys, IsKeyLetter c := by
  induction keys with
  | nil => simp
  | cons key keys ih =>
    rw [List.forall_mem_cons] at h
    cases keys with
    | nil =>
      rw [List.intercalate_singleton]
      exact h.1.letter
    | cons next keys =>
      rw [List.intercalate_cons_cons, List.append_assoc, List.forall_mem_append,
        List.forall_mem_append]
      exact ⟨h.1.letter, isKeyLetter_of_all (by decide), ih h.2⟩

/-- **What a variable in capitals names.** -/
theorem settingPath?_variableName (hne : keys ≠ []) (h : ∀ key ∈ keys, IsSpelled key.toList) :
    settingPath? (variableName keys) = some keys := by
  have hspelled : ∀ key ∈ keys.map String.toList, IsSpelled key := by
    simpa using h
  have hletter : ∀ c ∈ variableStart ++ ['_', '_'].intercalate (keys.map String.toList),
      IsKeyLetter c := by
    rw [List.forall_mem_append]
    exact ⟨isKeyLetter_of_all (by decide), isKeyLetter_of_mem_intercalate hspelled⟩
  have hblank : ∀ c ∈ (variableStart ++ ['_', '_'].intercalate (keys.map String.toList)).map
      Char.toUpper, Text.isBlank c = false := by
    rw [List.forall_mem_map]
    exact fun c hc => (hletter c hc).upperBlank
  have hlower : (variableStart ++ ['_', '_'].intercalate (keys.map String.toList)).map
      (Char.toLower ∘ Char.toUpper) =
        variableStart ++ ['_', '_'].intercalate (keys.map String.toList) :=
    (List.map_congr_left fun c hc => (hletter c hc).lower).trans (List.map_id' _)
  have hnil : keys.map String.toList ≠ [] := by
    simpa using hne
  obtain ⟨hkeys, hinner⟩ := keysOf_pointed_intercalate hnil hspelled
  have hany : (keys.map String.toList).any List.isEmpty = false := by
    simpa using fun key hkey => (h key hkey).nonempty
  unfold settingPath?
  rw [variableName, String.toList_ofList, trimChars_of_forall_not hblank, List.map_map, hlower]
  dsimp only
  rw [List.take_left, if_pos rfl, List.drop_left, trimChars_of_forall_not hinner, hkeys]
  simp [hany, Function.comp_def]

/-- The variable of a key names its path. -/
theorem TextKey.settingPath?_variableName {key : TextKey} (h : key.IsPlain) :
    settingPath? (variableName key.path) = some key.path := by
  refine Config.settingPath?_variableName (by cases key <;> exact List.cons_ne_nil _ _) ?_
  cases key with
  | defaultProfile =>
    have hname : IsSpelled "default_profile".toList :=
      ⟨by decide, isKeyLetter_of_all (by decide), by decide, fun rest => rfl⟩
    simpa [path] using hname
  | ofProfile profile key =>
    have hprofiles : IsSpelled "profiles".toList :=
      ⟨by decide, isKeyLetter_of_all (by decide), by decide, fun rest => rfl⟩
    have hprofile : IsSpelled profile.toList :=
      isSpelled_of_plain (fun hnil => h.1 (String.toList_inj.1 hnil)) h.2
    have hname : IsSpelled key.name.toList := by
      cases key <;>
        exact ⟨by decide, isKeyLetter_of_all (by decide), by decide, fun rest => rfl⟩
    simpa [path] using ⟨hprofiles, hprofile, hname⟩

end Names

/-! ### One variable more -/

section Environment

variable {variableName : String} {path : List String} {value lower : Setting} {env : Environment}
  {vs : List (List String × Setting)}

/-- A setting that leaves the end of a path alone: it has nothing there, and nothing in the way that
is no table. -/
def IsClear (path : List String) (s : Setting) : Prop :=
  s.at? path = none ∧ s.hides path = false

instance (path : List String) (s : Setting) : Decidable (IsClear path s) :=
  decidable_of_iff ((s.at? path).isNone = true ∧ s.hides path = false)
    (and_congr_left fun _ => Option.isNone_iff_eq_none)

/-- No variable of the environment gives the setting at the end of a path. -/
def IsFree (path : List String) (env : Environment) : Prop :=
  ∀ v ∈ namedSettings env, IsClear path (nested v.1 v.2)

instance (path : List String) (env : Environment) : Decidable (IsFree path env) :=
  inferInstanceAs (Decidable (∀ v ∈ namedSettings env, _))

/-- A variable that names a path is not there if nothing else gives its setting. -/
theorem IsFree.find?_eq_none (hvariable : settingPath? variableName = some path)
    (h : IsFree path env) : Dict.find? variableName env = none := by
  cases hfind : Dict.find? variableName env with
  | none => rfl
  | some text =>
    have hmem : (path, readSetting text) ∈ namedSettings env := by
      refine List.mem_filterMap.2 ⟨(variableName, text), Dict.mem_of_find? hfind, ?_⟩
      rw [hvariable]
      rfl
    have hnone := (h _ hmem).1
    have hsome := at?_nested path [] (readSetting text)
    rw [List.append_nil, hnone] at hsome
    cases hsome

/-- A variable that is not there yet adds its setting to those of the others. -/
theorem namedSettings_insert (hvariable : settingPath? variableName = some path)
    (hnone : Dict.find? variableName env = none) (text : String) :
    ∃ before after, namedSettings env = before ++ after ∧
      namedSettings (Dict.insert variableName text env) =
        before ++ (path, readSetting text) :: after := by
  obtain ⟨before, after, henv, hinsert⟩ := Dict.exists_insert_of_find? hnone text
  refine ⟨namedSettings before, namedSettings after, ?_, ?_⟩
  · rw [henv, namedSettings, List.filterMap_append]
    rfl
  · rw [hinsert, namedSettings, List.filterMap_append, List.filterMap_cons, hvariable]
    rfl

/-- A setting can be put at the end of a path after those that leave it alone. -/
theorem laidOn_overlay_nested (hvs : ∀ v ∈ vs, v.2.Ordered)
    (hclear : ∀ v ∈ vs, IsClear path (nested v.1 v.2)) (hlower : lower.Ordered)
    (hvalue : ∀ entries, value ≠ .table entries) :
    laidOn (lower.overlay (nested path value)) vs =
      (laidOn lower vs).overlay (nested path value) := by
  induction vs generalizing lower with
  | nil => rfl
  | cons v vs ih =>
    rw [List.forall_mem_cons] at hvs hclear
    have hnested := ordered_nested hvs.1 v.1
    rw [laidOn_cons, laidOn_cons, ← overlay_nested_comm_of_clear hlower hnested hvalue hclear.1.1
      hclear.1.2]
    exact ih hvs.2 hclear.2 (ordered_overlay hlower hnested)

theorem hides_laidOn_of_clear (hvs : ∀ v ∈ vs, v.2.Ordered)
    (hclear : ∀ v ∈ vs, IsClear path (nested v.1 v.2)) (hlower : lower.hides path = false) :
    (laidOn lower vs).hides path = false := by
  induction vs generalizing lower with
  | nil => exact hlower
  | cons v vs ih =>
    rw [List.forall_mem_cons] at hvs hclear
    exact ih hvs.2 hclear.2 (hides_overlay (ordered_nested hvs.1 v.1) hlower hclear.1.2)

/-- What the built-in values, a file and the environment make together. -/
def merged (file : Setting) (env : Environment) : Setting :=
  (builtinSetting.overlay file).overlay (ofEnvironment env)

theorem load_eq {file : Option String} {s : Setting} (h : ofFile file = .ok s)
    (env : Environment) : load file env =
      (ofSetting (merged s env)).mapError (Fault.asError s (ofEnvironment env)) := by
  rw [load, h]
  rfl

theorem ordered_ofEnvironment (env : Environment) : (ofEnvironment env).Ordered := by
  rw [ofEnvironment_eq]
  exact ordered_laidOn ordered_table_nil fun v hv => ordered_of_mem_namedSettings hv

theorem ordered_merged {file : Setting} (hfile : file.Ordered) (env : Environment) :
    (merged file env).Ordered :=
  ordered_overlay (ordered_overlay ordered_builtinSetting hfile) (ordered_ofEnvironment env)

/-- A variable whose setting no other gives puts it over those of the others. -/
theorem ofEnvironment_insert (hvariable : settingPath? variableName = some path)
    (hfree : IsFree path env) {text : String}
    (hvalue : ∀ entries, readSetting text ≠ .table entries) :
    ofEnvironment (Dict.insert variableName text env) =
      (ofEnvironment env).overlay (nested path (readSetting text)) := by
  obtain ⟨before, after, hnamed, hinsert⟩ :=
    namedSettings_insert hvariable (hfree.find?_eq_none hvariable) text
  have hordered : ∀ v ∈ before ++ after, v.2.Ordered :=
    hnamed ▸ fun v hv => ordered_of_mem_namedSettings hv
  have hclear : ∀ v ∈ before ++ after, IsClear path (nested v.1 v.2) := hnamed ▸ hfree
  rw [List.forall_mem_append] at hordered hclear
  rw [ofEnvironment_eq, ofEnvironment_eq, hnamed, hinsert, laid, laidOn_append, laidOn_cons,
    laidOn_overlay_nested hordered.2 hclear.2 (ordered_laidOn ordered_table_nil hordered.1) hvalue,
    ← laidOn_append]
  rfl

/-- **A variable whose setting nothing else gives puts it over all layers.** -/
theorem merged_insert {file : Setting} (hfile : file.Ordered)
    (hvariable : settingPath? variableName = some path) (hfree : IsFree path env) {text : String}
    (hvalue : ∀ entries, readSetting text ≠ .table entries) :
    merged file (Dict.insert variableName text env) =
      (merged file env).overlay (nested path (readSetting text)) := by
  have hhides : (ofEnvironment env).hides path = false := by
    rw [ofEnvironment_eq]
    refine hides_laidOn_of_clear (fun v hv => ordered_of_mem_namedSettings hv) hfree ?_
    cases path <;> rfl
  rw [merged, merged, ofEnvironment_insert hvariable hfree hvalue]
  exact overlay_overlay_nested (ordered_overlay ordered_builtinSetting hfile)
    (ordered_ofEnvironment env) hvalue hhides

/-- A fault of its setting is then one of the variables. -/
theorem sourceOf_insert {file : Setting} (hvariable : settingPath? variableName = some path)
    (hfree : IsFree path env) {text : String}
    (hvalue : ∀ entries, readSetting text ≠ .table entries) :
    sourceOf file (ofEnvironment (Dict.insert variableName text env)) path = .environment := by
  have hend := at?_nested path [] (readSetting text)
  rw [List.append_nil] at hend
  have hat : (ofEnvironment (Dict.insert variableName text env)).at? path =
      some (onto ((ofEnvironment env).at? path) (readSetting text)) := by
    rw [ofEnvironment_insert hvariable hfree hvalue,
      at?_overlay (ordered_nested (ordered_readSetting text) path), hend]
    rfl
  exact if_pos (reaches_of_at? hat)

end Environment

/-! ### Reading with another text -/

section Reading

variable {s value : Setting} {entries : Dict Setting} {name : String} {fault : Fault}

/-- A profile that can be read cannot be read with a wrong entry for one of its texts. -/
theorem readProfileEntries_insert_error {hosted hosted' : Bool} {p p' q : Profile}
    (h : readProfileEntries hosted p entries = .ok p') (hvalue : readText value = .error fault)
    (key : ProfileText) :
    readProfileEntries hosted' q (Dict.insert key.name value entries) =
      .error (fault.under key.name) := by
  have hhead (rest : Dict Setting) (hosted : Bool) (q : Profile) :
      readProfileEntries hosted q ((key.name, value) :: rest) = .error (fault.under key.name) := by
    cases key <;> simp [readProfileEntries, ProfileText.name, hvalue, Except.mapError] <;> rfl
  induction entries generalizing hosted hosted' p q with
  | nil => exact hhead [] hosted' q
  | cons e entries ih =>
    obtain ⟨k, t⟩ := e
    unfold Dict.insert
    split_ifs with hkey hlt
    · exact hhead entries hosted' q
    · exact hhead ((k, t) :: entries) hosted' q
    · -- an entry in front is read as before
      rw [readProfileEntries] at h ⊢
      split_ifs at h ⊢ <;> first
        | exact ih h
        | obtain ⟨a, hread, h⟩ := exists_of_entry h
          rw [hread]
          exact ih h

theorem readProfileTable_insert_error {ps : Dict Profile} (h : readProfileTable entries = .ok ps)
    (hvalue : readProfile value = .error fault) (name : String) :
    readProfileTable (Dict.insert name value entries) = .error (fault.under name) := by
  induction entries generalizing ps with
  | nil =>
    simp [Dict.insert, readProfileTable, hvalue, Except.mapError]
    rfl
  | cons e entries ih =>
    obtain ⟨k, t⟩ := e
    rw [readProfileTable] at h
    obtain ⟨p, hread, h⟩ := exists_of_entry h
    obtain ⟨ps', hrest, -⟩ := exists_of_bind h
    unfold Dict.insert
    split_ifs
    · rw [readProfileTable, hvalue]
      rfl
    · rw [readProfileTable, hvalue]
      rfl
    · rw [readProfileTable, hread, ih hrest]
      rfl

theorem readEntries_insert_error {c c' d : Config} (h : readEntries c entries = .ok c')
    (hhead : ∀ rest d, readEntries d ((name, value) :: rest) = .error fault) :
    readEntries d (Dict.insert name value entries) = .error fault := by
  induction entries generalizing c d with
  | nil => exact hhead [] d
  | cons e entries ih =>
    obtain ⟨k, t⟩ := e
    unfold Dict.insert
    split_ifs with hkey hlt
    · exact hhead entries d
    · exact hhead ((k, t) :: entries) d
    · rw [readEntries] at h ⊢
      split_ifs at h ⊢ <;> first
        | exact ih h
        | obtain ⟨a, hread, h⟩ := exists_of_entry h
          rw [hread]
          exact ih h

/-- One text of a profile in place of another. -/
theorem readProfile_insert_text {p : Profile} (hordered : (table entries).Ordered)
    (h : readProfile (.table entries) = .ok p) (key : ProfileText) (text : String) :
    readProfile (.table (Dict.insert key.name (.text text) entries)) = .ok (key.put text p) := by
  obtain ⟨hhost, hport, hkey, hsource, htimeout⟩ := reads_of_readProfile hordered h
  have hput {α : Type} {read : Setting → Except Fault α} {default : Option α} {a : α}
      (hread : read (.text text) = .ok a) :
      Reads read default (Dict.find? key.name (Dict.insert key.name (.text text) entries)) a := by
    rw [Dict.find?_insert_self]
    exact hread
  have hkeep {α : Type} {read : Setting → Except Fault α} {default : Option α} {a : α}
      {other : String} (hne : other ≠ key.name)
      (h : Reads read default (Dict.find? other entries) a) :
      Reads read default (Dict.find? other (Dict.insert key.name (.text text) entries)) a := by
    rwa [Dict.find?_insert_of_ne hne]
  refine readProfileEntries_of_reads (Dict.sorted_insert _ _ hordered.sorted) ?_
  cases key with
  | host =>
    exact ⟨hput rfl, hkeep (by decide) hport, hkeep (by decide) hkey, hkeep (by decide) hsource,
      hkeep (by decide) htimeout⟩
  | apiKey =>
    exact ⟨hkeep (by decide) hhost, hkeep (by decide) hport, hput rfl, hkeep (by decide) hsource,
      hkeep (by decide) htimeout⟩
  | apiKeyEnv =>
    exact ⟨hkeep (by decide) hhost, hkeep (by decide) hport, hkeep (by decide) hkey, hput rfl,
      hkeep (by decide) htimeout⟩

/-- A profile in list form has all the texts. -/
theorem isSome_of_readProfile_list {p : Profile} {items : List Setting}
    (h : readProfile (.list items) = .ok p) : p.apiKey.isSome ∧ p.apiKeyEnv.isSome := by
  rw [readProfile, readProfileItems] at h
  obtain ⟨host, -, h⟩ := exists_of_bind h
  obtain ⟨port, -, h⟩ := exists_of_bind h
  obtain ⟨apiKey, -, h⟩ := exists_of_bind h
  obtain ⟨apiKeyEnv, -, h⟩ := exists_of_bind h
  obtain ⟨requestTimeout, -, h⟩ := exists_of_bind h
  cases h
  exact ⟨rfl, rfl⟩

/-- A value that is no table takes the place of what an entry gave. -/
theorem overlay_nested_single (hvalue : ∀ inner, value ≠ .table inner) :
    (table entries).overlay (nested [name] value) = .table (Dict.insert name value entries) := by
  rw [overlay_nested_cons]
  cases Dict.find? name entries with
  | none => rfl
  | some t => rw [onto, nested, List.foldr_nil, overlay_of_not_table hvalue]

/-- **A profile with a text laid over it.** A table has the text in place of the one that it had; a
list is replaced as a whole. -/
theorem readProfile_overlay_text {p : Profile} (hordered : s.Ordered) (h : readProfile s = .ok p)
    (hvalue : ∀ inner, value ≠ .table inner) (key : ProfileText) :
    (∀ fault, readText value = .error fault →
      readProfile (s.overlay (nested [key.name] value)) = .error (fault.under key.name)) ∧
    ∀ text, value = .text text →
      (readProfile (s.overlay (nested [key.name] value)) = .ok (key.put text p) ↔
        ¬ ∃ items, s = .list items) := by
  obtain ⟨entries, rfl⟩ | hother := table_or_not s
  · rw [overlay_nested_single hvalue]
    refine ⟨fun fault hfault => readProfileEntries_insert_error h hfault key, ?_⟩
    rintro text rfl
    refine ⟨fun _ => nofun, fun _ => ?_⟩
    exact readProfile_insert_text hordered h key text
  · have hsingle : s.overlay (nested [key.name] value) = .table [(key.name, value)] :=
      overlay_onto_other hother
    have hlist : ∃ items, s = .list items := by
      cases s <;> first | exact ⟨_, rfl⟩ | cases h | exact absurd rfl (hother _)
    obtain ⟨items, rfl⟩ := hlist
    rw [hsingle]
    refine ⟨fun fault hfault => ?_, ?_⟩
    · have hnil : readProfileEntries true p [] = .ok p := rfl
      exact readProfileEntries_insert_error hnil hfault key
    · rintro text rfl
      refine ⟨fun hread => ?_, fun hnot => absurd ⟨items, rfl⟩ hnot⟩
      obtain ⟨hkey, hsource⟩ := isSome_of_readProfile_list h
      cases key with
      | host =>
        have hnone : none = p.apiKey := congrArg Profile.apiKey (Except.ok.inj hread)
        rw [← hnone] at hkey
        cases hkey
      | apiKey => cases hread
      | apiKeyEnv => cases hread

theorem readProfileTable_insert_iff {ps : Dict Profile} {p : Profile}
    (h : readProfileTable entries = .ok ps) :
    readProfileTable (Dict.insert name value entries) = .ok (Dict.insert name p ps) ↔
      readProfile value = .ok p := by
  refine ⟨fun hread => ?_, fun hvalue => readProfileTable_insert h hvalue name⟩
  have hprofile := find?_of_readProfileTable hread name
  rw [Dict.find?_insert_self] at hprofile
  obtain ⟨q, hq, hvalue⟩ := hprofile
  rw [Dict.find?_insert_self] at hq
  cases hq
  exact hvalue

/-- Other profiles beside the default profile and the defaults that there were. -/
theorem readEntries_insert_profiles_iff {c : Config} {inner : Dict Setting} {ps : Dict Profile}
    (hsorted : Dict.Sorted entries) (h : readEntries .builtin entries = .ok c) :
    readEntries .builtin (Dict.insert "profiles" (.table inner) entries) =
        .ok { c with profiles := ps } ↔
      readProfileTable inner = .ok ps := by
  have hinserted := Dict.sorted_insert "profiles" (.table inner) hsorted
  constructor
  · intro hread
    have hnext := (reads_of_readEntries hinserted hread).profiles
    rw [Dict.find?_insert_self] at hnext
    exact hnext
  · intro hinner
    have hreads := reads_of_readEntries hsorted h
    refine readEntries_of_reads hinserted ⟨?_, ?_, ?_⟩
    · rw [Dict.find?_insert_of_ne (by decide)]
      exact hreads.defaultProfile
    · rw [Dict.find?_insert_of_ne (by decide)]
      exact hreads.defaults
    · rw [Dict.find?_insert_self]
      exact hinner

/-- A configuration that has a profile has a table of profiles with it. -/
theorem exists_of_find?_profiles {c : Config} {p : Profile} (hordered : (table entries).Ordered)
    (h : readEntries .builtin entries = .ok c) (hp : Dict.find? name c.profiles = some p) :
    ∃ inner, Dict.find? "profiles" entries = some (.table inner) ∧
      readProfileTable inner = .ok c.profiles ∧
      ∃ s, Dict.find? name inner = some s ∧ readProfile s = .ok p := by
  have hreads := (reads_of_readEntries hordered.sorted h).profiles
  cases hfind : Dict.find? "profiles" entries with
  | none =>
    rw [hfind] at hreads
    rw [← Option.some_inj.1 hreads] at hp
    cases hp
  | some s =>
    rw [hfind] at hreads
    obtain ⟨inner, rfl⟩ | hother := table_or_not s
    · have hread : readProfileTable inner = .ok c.profiles := hreads
      have hprofile := find?_of_readProfileTable hread name
      refine ⟨inner, rfl, hread, ?_⟩
      cases hs : Dict.find? name inner with
      | none =>
        rw [hs, hp] at hprofile
        cases hprofile
      | some s =>
        rw [hs] at hprofile
        obtain ⟨q, hq, hread⟩ := hprofile
        obtain rfl : q = p := Option.some_inj.1 (hq.symm.trans hp)
        exact ⟨s, rfl, hread⟩
    · cases s <;> first | cases hreads | exact absurd rfl (hother _)

theorem readEntries_overlay_defaultProfile {c : Config} (hsorted : Dict.Sorted entries)
    (h : readEntries .builtin entries = .ok c) (hvalue : ∀ inner, value ≠ .table inner) :
    (∀ fault, readText value = .error fault →
      ofSetting ((table entries).overlay (nested ["default_profile"] value)) =
        .error (fault.under "default_profile")) ∧
    ∀ text, value = .text text →
      ofSetting ((table entries).overlay (nested ["default_profile"] value)) =
        .ok { c with defaultProfile := text } := by
  rw [overlay_nested_single hvalue]
  refine ⟨fun fault hfault => ?_, ?_⟩
  · refine readEntries_insert_error h fun rest d => ?_
    rw [readEntries, if_pos rfl, hfault]
    rfl
  · rintro text rfl
    have hreads := reads_of_readEntries hsorted h
    refine readEntries_of_reads (Dict.sorted_insert _ _ hsorted) ⟨?_, ?_, ?_⟩
    · rw [Dict.find?_insert_self]
      rfl
    · rw [Dict.find?_insert_of_ne (by decide)]
      exact hreads.defaults
    · rw [Dict.find?_insert_of_ne (by decide)]
      exact hreads.profiles

/-- **A configuration with a text laid over it.** -/
theorem ofSetting_overlay_text {c : Config} {key : TextKey} (hordered : s.Ordered)
    (h : ofSetting s = .ok c) (hkey : key.IsIn c) (hvalue : ∀ inner, value ≠ .table inner) :
    (∀ fault, readText value = .error fault →
      ofSetting (s.overlay (nested key.path value)) =
        .error ⟨key.path ++ fault.path, fault.defect⟩) ∧
    ∀ text, value = .text text →
      (ofSetting (s.overlay (nested key.path value)) = .ok (key.put text c) ↔
        ¬ key.IsListed s) := by
  obtain ⟨entries, rfl⟩ : ∃ entries, s = .table entries := by
    obtain htable | hother := table_or_not s
    · exact htable
    · cases s <;> first | cases h | exact absurd rfl (hother _)
  cases key with
  | defaultProfile =>
    obtain ⟨herror, htext⟩ := readEntries_overlay_defaultProfile hordered.sorted h hvalue
    exact ⟨herror, fun text hvalue' => ⟨fun _ => id, fun _ => htext text hvalue'⟩⟩
  | ofProfile profile key =>
    obtain ⟨p, hp⟩ := Option.isSome_iff_exists.1 hkey
    obtain ⟨inner, hprofiles, htable, t, ht, hread⟩ := exists_of_find?_profiles hordered h hp
    have hplace : (table entries).overlay (nested ["profiles", profile, key.name] value) =
        .table (Dict.insert "profiles" (.table (Dict.insert profile
          (t.overlay (nested [key.name] value)) inner)) entries) := by
      rw [overlay_nested_cons, hprofiles, onto, overlay_nested_cons, ht, onto]
    have hlisted : (TextKey.ofProfile profile key).IsListed (table entries) ↔
        ∃ items, t = .list items := by
      rw [TextKey.IsListed, at?_table, hprofiles, Option.bind_some, at?_table, ht, Option.bind_some,
        at?_nil]
      simp only [Option.some.injEq]
    have hput (text : String) : (TextKey.ofProfile profile key).put text c =
        { c with profiles := Dict.insert profile (key.put text p) c.profiles } := by
      rw [TextKey.put, hp]
    obtain ⟨herror, htext⟩ := readProfile_overlay_text
      ((hordered.find? hprofiles).find? ht) hread hvalue key
    rw [TextKey.path, hplace, hlisted]
    refine ⟨fun fault hfault => ?_, fun text hvalue' => ?_⟩
    · have hinner := readProfileTable_insert_error htable (herror fault hfault) profile
      refine readEntries_insert_error h fun rest d => ?_
      rw [readEntries, if_neg (by decide), if_neg (by decide), if_pos rfl, readProfiles, hinner]
      rfl
    · rw [hput, ← htext text hvalue', ← readProfileTable_insert_iff htable]
      exact readEntries_insert_profiles_iff hordered.sorted h

end Reading

/-! ### Loading -/

/-- **Letters and digits arrive as they are written exactly if they spell neither a truth value nor
a whole number of 64 bits, and the profile is not written as a list.** If they do spell one, there
is no configuration. -/
theorem load_with_text (text : Option String) (env : Environment) (c : Config) (key : TextKey)
    (value : String) (hload : load text env = .ok c) (hin : key.IsIn c) (hplain : key.IsPlain)
    (hfree : IsFree key.path env) (hvalue : AreAlphanumeric value.toList) (hne : value ≠ "") :
    ∃ s, ofFile text = .ok s ∧
      (load text (Dict.insert (variableName key.path) value env) = .ok (key.put value c) ↔
        StandsForItself value ∧ ¬ key.IsListed (merged s env)) ∧
      (¬ StandsForItself value →
        load text (Dict.insert (variableName key.path) value env) =
          .error (.unreadable .environment
            ⟨key.path, .wrongType (readSetting value).found .text⟩)) := by
  obtain ⟨s, hs, hread⟩ := exists_of_load hload
  have hfile := ordered_of_ofFile hs
  have htable := readSetting_ne_table hvalue hne
  have hmerged := merged_insert hfile (TextKey.settingPath?_variableName hplain) hfree htable
  have hnext : load text (Dict.insert (variableName key.path) value env) =
      (ofSetting ((merged s env).overlay (nested key.path (readSetting value)))).mapError
        (Fault.asError s (ofEnvironment (Dict.insert (variableName key.path) value env))) := by
    rw [← hmerged, load_eq hs]
  obtain ⟨herror, htext⟩ := ofSetting_overlay_text (ordered_merged hfile env) hread hin htable
  have hreadText := readText_readSetting hvalue hne
  refine ⟨s, hs, ?_, fun hself => ?_⟩
  · rw [hnext]
    by_cases hself : StandsForItself value
    · rw [← htext value ((readSetting_eq_text_iff hvalue hne).2 hself)]
      refine ⟨fun h => ⟨hself, ok_of_mapError h⟩, fun h => ?_⟩
      rw [h.2]
      rfl
    · rw [if_neg hself] at hreadText
      rw [herror _ hreadText]
      exact ⟨nofun, fun h => absurd h.1 hself⟩
  · rw [if_neg hself] at hreadText
    rw [hnext, herror _ hreadText, List.append_nil]
    show Except.error (ConfigError.unreadable _ _) = _
    rw [sourceOf_insert (TextKey.settingPath?_variableName hplain) hfree htable]

/-- A file with a host and no more. -/
def hostFile : String := "[profiles.p]\nhost = \x22h\x22\n"

/-- What it makes. -/
def hostConfig : Config := ⟨"default", .builtin, [("p", .ofHost "h")]⟩

/-- A key with letters and one that is a number larger than any word. -/
theorem load_with_text_of_key :
    load (some hostFile) [("REPLINK_PROFILES__P__API_KEY", "007a")] =
        .ok ((TextKey.ofProfile "p" .apiKey).put "007a" hostConfig) ∧
      load (some hostFile) [("REPLINK_PROFILES__P__API_KEY", "18446744073709551616")] =
        .ok ((TextKey.ofProfile "p" .apiKey).put "18446744073709551616" hostConfig) ∧
      load (some hostFile) [("REPLINK_PROFILES__P__API_KEY", "18446744073709551615")] =
        .error (.unreadable .environment ⟨["profiles", "p", "api_key"],
          .wrongType (.unsigned 18446744073709551615) .text⟩) := by
  have hload : load (some hostFile) [] = .ok hostConfig := ok_of_toOption (by decide +kernel)
  have hname : variableName (TextKey.ofProfile "p" .apiKey).path =
      "REPLINK_PROFILES__P__API_KEY" := by
    decide
  have hunlisted (s : Setting) (hs : ofFile (some hostFile) = .ok s) :
      ¬ (TextKey.ofProfile "p" .apiKey).IsListed (merged s []) := by
    rintro ⟨items, hat⟩
    have htable : (match ofFile (some hostFile) with
        | .ok s => ((merged s []).at? ["profiles", "p"]).map Setting.found
        | .error _ => none) = some .mapping := by
      decide +kernel
    rw [hs] at htable
    dsimp only at htable
    rw [hat] at htable
    cases htable
  have hplain : (TextKey.ofProfile "p" .apiKey).IsPlain := by decide
  have hfree : IsFree (TextKey.ofProfile "p" .apiKey).path [] := by decide
  obtain ⟨s, hs, hletters, -⟩ := load_with_text (some hostFile) [] hostConfig
    (.ofProfile "p" .apiKey) "007a" hload rfl hplain hfree (by decide) (by decide)
  obtain ⟨t, ht, hlarge, -⟩ := load_with_text (some hostFile) [] hostConfig
    (.ofProfile "p" .apiKey) "18446744073709551616" hload rfl hplain hfree (by decide) (by decide)
  obtain ⟨-, -, -, hnumber⟩ := load_with_text (some hostFile) [] hostConfig
    (.ofProfile "p" .apiKey) "18446744073709551615" hload rfl hplain hfree (by decide) (by decide)
  rw [hname] at hletters hlarge hnumber
  refine ⟨hletters.2 ⟨by decide, hunlisted s hs⟩, hlarge.2 ⟨by decide, hunlisted t ht⟩, ?_⟩
  have hfound : (readSetting "18446744073709551615").found = .unsigned 18446744073709551615 := by
    decide +kernel
  rw [hfound] at hnumber
  exact hnumber (by decide)

/-- A key that happens to be a number leaves nothing that can be loaded. -/
theorem numeric_key_unreadable :
    (load (some hostFile) []).toOption = some hostConfig ∧
    load (some hostFile) [("REPLINK_PROFILES__P__API_KEY", "007")] =
      .error (.unreadable .environment
        ⟨["profiles", "p", "api_key"], .wrongType (.unsigned 7) .text⟩) ∧
    ¬ ∀ (text : Option String) (env : Environment) (c : Config) (key : TextKey) (value : String),
      load text env = .ok c → Dict.find? (variableName key.path) env = none → key.IsIn c →
      key.IsPlain → AreAlphanumeric value.toList → value ≠ "" →
      load text (Dict.insert (variableName key.path) value env) = .ok (key.put value c) := by
  have hload : (load (some hostFile) []).toOption = some hostConfig := by decide +kernel
  have hnumber : (load (some hostFile) [("REPLINK_PROFILES__P__API_KEY", "007")]) =
      .error (.unreadable .environment
        ⟨["profiles", "p", "api_key"], .wrongType (.unsigned 7) .text⟩) := by
    decide +kernel
  refine ⟨hload, hnumber, fun hall => ?_⟩
  have htext := hall (some hostFile) [] hostConfig (.ofProfile "p" .apiKey) "007"
    (ok_of_toOption hload) rfl rfl (by decide) (by decide) (by decide)
  have hname : variableName (TextKey.ofProfile "p" .apiKey).path =
      "REPLINK_PROFILES__P__API_KEY" := by
    decide
  rw [hname] at htext
  cases hnumber.symm.trans htext

end PrintClient.Config
