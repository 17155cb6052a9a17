import PrintClient.CommandLine.Program
import PrintClient.Proofs.Config.Veil

/-!
# What is shown of a configuration

The configuration in force is shown without its keys, so what is shown does not depend on them. What
is reported of sources that make no configuration depends on a key if the key is no text: the report
shows what stands in its place.

* `showConfig_veiled`: a configuration and the same under the veil are shown alike;
* `readLevels_of_same`, `parse_of_same`: the command line does not depend on keys;
* `Reveals`: a run that reports what stands in place of a key;
* `run_show_of_same`: two runs whose sources differ in their keys alone.
-/

namespace PrintClient.CommandLine

open Config

variable {env env' : Environment} {variableName : String} {args : List String}

/-! ### Showing -/

theorem showProfile_veiled (name : String) (p : Profile) :
    showProfile name (veiledProfile p) = showProfile name p := by
  unfold showProfile veiledProfile
  rw [Option.isSome_map]

/-- **A configuration is shown as it is under the veil.** -/
theorem showConfig_veiled (c : Config) (active : String) :
    showConfig c.veiled active = showConfig c active := by
  have hprofiles : (c.veiled.profiles.map fun p => showProfile p.1 p.2) =
      c.profiles.map fun p => showProfile p.1 p.2 := by
    rw [veiled, List.map_map]
    exact List.map_congr_left fun p _ => showProfile_veiled p.1 p.2
  unfold showConfig
  rw [hprofiles]
  rfl

/-! ### Command lines -/

theorem find?_of_same (h : SameVariables env env') (variableName : String) :
    (Dict.find? variableName env).isSome = (Dict.find? variableName env').isSome ∧
      (maySayKeys variableName = false →
        Dict.find? variableName env = Dict.find? variableName env') := by
  induction h with
  | nil => exact ⟨rfl, fun _ => rfl⟩
  | @cons v w _ _ hv _ ih =>
    obtain ⟨k, text⟩ := v
    obtain ⟨k', text'⟩ := w
    obtain rfl : k = k' := hv.name
    unfold Dict.find?
    split_ifs with hkey
    · subst hkey
      exact ⟨rfl, fun hname => congrArg some (hv.text.resolve_right (by simp [hname]))⟩
    · exact ih

/-- A number from the environment, unless one was given. -/
def orRead {α : Type} (read : String → Except Refusal α) (given : Option α) (text : Option String) :
    Except Refusal (Option α) :=
  match given, text with
  | none, some s => (read s).map some
  | a, _ => .ok a

theorem orEnvironment_eq (g : Given) (env : Environment) :
    g.orEnvironment env = (do
      let port ← orRead readPort g.port (Dict.find? "REPLINK_PORT" env)
      let timeout ← orRead readSeconds g.timeout (Dict.find? "REPLINK_TIMEOUT" env)
      return { g with
        profile := g.profile.or (Dict.find? "REPLINK_PROFILE" env)
        host := g.host.or (Dict.find? "REPLINK_HOST" env)
        port
        apiKey := g.apiKey.or (Dict.find? "REPLINK_API_KEY" env)
        timeout }) := by
  unfold Given.orEnvironment orRead
  cases g.port <;> cases Dict.find? "REPLINK_PORT" env <;> cases g.timeout <;>
    cases Dict.find? "REPLINK_TIMEOUT" env <;> rfl

theorem apiKey_of_orEnvironment {g given : Given} (h : g.orEnvironment env = .ok given) :
    given.apiKey = g.apiKey.or (Dict.find? "REPLINK_API_KEY" env) := by
  rw [orEnvironment_eq] at h
  obtain ⟨port, -, h⟩ := exists_of_bind h
  obtain ⟨timeout, -, h⟩ := exists_of_bind h
  rw [← Except.ok.inj h]

/-- What the environment says differs in the key alone. -/
theorem orEnvironment_of_same (h : SameVariables env env') (g : Given) :
    g.orEnvironment env' = (g.orEnvironment env).map fun given =>
      { given with apiKey := g.apiKey.or (Dict.find? "REPLINK_API_KEY" env') } := by
  have hport := (find?_of_same h "REPLINK_PORT").2 (by decide +kernel)
  have htimeout := (find?_of_same h "REPLINK_TIMEOUT").2 (by decide +kernel)
  have hprofile := (find?_of_same h "REPLINK_PROFILE").2 (by decide +kernel)
  have hhost := (find?_of_same h "REPLINK_HOST").2 (by decide +kernel)
  simp only [orEnvironment_eq, ← hport, ← htimeout, ← hprofile, ← hhost]
  cases orRead readPort g.port (Dict.find? "REPLINK_PORT" env) with
  | error r => rfl
  | ok port =>
    cases orRead readSeconds g.timeout (Dict.find? "REPLINK_TIMEOUT" env) with
    | error r => rfl
    | ok timeout => rfl

/-- What is left of reading a level when the levels below it are read. -/
def finishLevel (l : Level) (env : Environment) (s : Scan) (below : Option (Given × Command)) :
    Except Refusal (Given × Command) := do
  let s ← s.settle l
  let typed := s.given
  let given ← typed.orEnvironment env
  checkLevel l { s with given } below.isSome
  match below with
  | some (deep, command) => .ok (deep.orElse typed, command)
  | none =>
    match command? l given s.words.reverse with
    | some command => .ok (typed, command)
    | none => .error .missingRequiredArgument

theorem finishLevel_of_same (h : SameVariables env env') (l : Level) (s : Scan)
    (below : Option (Given × Command)) :
    finishLevel l env s below = finishLevel l env' s below := by
  unfold finishLevel
  cases s.settle l with
  | error r => rfl
  | ok s =>
    have hkey : (s.given.apiKey.or (Dict.find? "REPLINK_API_KEY" env)).isSome =
        (s.given.apiKey.or (Dict.find? "REPLINK_API_KEY" env')).isSome := by
      rw [Option.isSome_or, Option.isSome_or, (find?_of_same h "REPLINK_API_KEY").1]
    have hsame := orEnvironment_of_same h s.given
    generalize s.given.apiKey.or (Dict.find? "REPLINK_API_KEY" env') = key at hkey hsame
    show (s.given.orEnvironment env >>= _) = (s.given.orEnvironment env' >>= _)
    rw [hsame]
    cases hgiven : s.given.orEnvironment env with
    | error r => rfl
    | ok given =>
      have hempty : ({ given with apiKey := key } : Given).isEmpty = given.isEmpty := by
        have hnone : key.isNone = given.apiKey.isNone := by
          rw [← Option.not_isSome, ← Option.not_isSome, apiKey_of_orEnvironment hgiven, hkey]
        simp only [Given.isEmpty, hnone]
      have hcheck : checkLevel l { s with given := { given with apiKey := key } } below.isSome =
          checkLevel l { s with given } below.isSome := by
        simp only [checkLevel, hempty]
      have hcommand (words : List String) :
          command? l { given with apiKey := key } words = command? l given words := rfl
      show (checkLevel l { s with given } below.isSome >>= _) =
        (checkLevel l { s with given := { given with apiKey := key } } below.isSome >>= _)
      rw [hcheck]
      simp only [hcommand]

/-- **The command and what is typed with it do not depend on keys in the environment.** -/
theorem readLevels_of_same (h : SameVariables env env') (depth : Nat) (l : Level)
    (args : List String) : readLevels depth l env args = readLevels depth l env' args := by
  induction depth generalizing l args with
  | zero => rfl
  | succ depth ih =>
    unfold readLevels
    cases readLevel l ⟨{}, [], none, false⟩ args with
    | error r => rfl
    | ok scanned =>
      obtain ⟨s, found⟩ := scanned
      cases found with
      | none => exact finishLevel_of_same h l s none
      | some next =>
        obtain ⟨next, rest⟩ := next
        simp only [ih]
        show (do
          let below ← (readLevels depth next env' rest).map some
          finishLevel l env s below) = (do
          let below ← (readLevels depth next env' rest).map some
          finishLevel l env' s below)
        simp only [finishLevel_of_same h]

theorem parse_eq (args : List String) (env : Environment) : parse args env =
    (readLevels 3 .program env args >>= fun read =>
      (read.1.orEnvironment env).map fun given => Invocation.mk given.options read.2) := by
  unfold parse
  cases readLevels 3 .program env args with
  | error r => rfl
  | ok read =>
    show (read.1.orEnvironment env >>= fun given => .ok (Invocation.mk given.options read.2)) =
      (read.1.orEnvironment env).map fun given => Invocation.mk given.options read.2
    cases read.1.orEnvironment env <;> rfl

/-- The same command is asked for, with the same options apart from the key. -/
theorem parse_of_same (h : SameVariables env env') {o : Options} {command : Command}
    (hparse : parse args env = .ok ⟨o, command⟩) :
    ∃ key, parse args env' = .ok ⟨{ o with apiKey := key }, command⟩ := by
  rw [parse_eq] at hparse ⊢
  rw [← readLevels_of_same h]
  cases hlevels : readLevels 3 .program env args with
  | error r =>
    rw [hlevels] at hparse
    cases hparse
  | ok read =>
    rw [hlevels] at hparse
    refine ⟨read.1.apiKey.or (Dict.find? "REPLINK_API_KEY" env'), ?_⟩
    have hoptions : (read.1.orEnvironment env).map
        (fun given => Invocation.mk given.options read.2) = .ok ⟨o, command⟩ := hparse
    show (read.1.orEnvironment env').map (fun given => Invocation.mk given.options read.2) = _
    rw [orEnvironment_of_same h]
    cases hgiven : read.1.orEnvironment env with
    | error r =>
      rw [hgiven] at hoptions
      cases hoptions
    | ok given =>
      rw [hgiven] at hoptions
      cases hoptions
      rfl

/-! ### Two runs -/

section Runs

variable {s s' : Surroundings}

/-- A text that stands somewhere in another. -/
def IsPart (part whole : String) : Prop := ∃ before after, whole = before ++ part ++ after

/-- A run that does not show a configuration but reports on its sources, with what stands in place
of a key: it is no text, and its words are among those of the report. -/
def Reveals (s : Surroundings) (args : List String) : Prop :=
  ∃ file, ofFile s.configFile = .ok file ∧ ∃ k ∈ secretsOf (merged file s.env),
    (∀ t, k.2 ≠ .text t) ∧
    (run s args).stop = some (.problem (.config (.unreadable
      (sourceOf file (ofEnvironment s.env) k.1) ⟨k.1, .wrongType k.2.found .text⟩))) ∧
    IsPart k.2.found.describe ((run s args).stderr s.wording)

/-- All keys in the sources are texts. -/
def HasTextKeys (s : Surroundings) : Prop :=
  ∀ file, ofFile s.configFile = .ok file → ∀ k ∈ secretsOf (merged file s.env), ∃ t, k.2 = .text t

theorem run_of_show {o : Options} (h : parse args s.env = .ok ⟨o, .configShow⟩) :
    run s args = runShow s o := by
  rw [run, h]
  rfl

theorem isPart_append_left {part whole : String} (h : IsPart part whole) (front : String) :
    IsPart part (front ++ whole) := by
  obtain ⟨before, after, rfl⟩ := h
  exact ⟨front ++ before, after, by rw [String.append_assoc, String.append_assoc,
    String.append_assoc]⟩

theorem isPart_append_right {part whole : String} (h : IsPart part whole) (back : String) :
    IsPart part (whole ++ back) := by
  obtain ⟨before, after, rfl⟩ := h
  exact ⟨before, after ++ back, String.append_assoc⟩

theorem isPart_describe_message (words : Wording) (source : Source) (path : List String)
    (found : Found) (wanted : Wanted) :
    IsPart found.describe (Fault.message words source ⟨path, .wrongType found wanted⟩) := by
  have hself : IsPart found.describe found.describe := ⟨"", "", by simp⟩
  unfold Fault.message Defect.message
  exact isPart_append_right (isPart_append_right (isPart_append_right
    (isPart_append_left hself _) _) _) _

/-- A report on a setting of the wrong kind has the words for what was found in it. -/
theorem isPart_describe_stderr (words : Wording) (source : Source) (path : List String)
    (found : Found) (wanted : Wanted) : IsPart found.describe
      ((Outcome.failed (.config (.unreadable source ⟨path, .wrongType found wanted⟩))).stderr
        words) := by
  have hmessage := isPart_append_left (isPart_describe_message words source path found wanted)
    "config loading failed: "
  unfold Outcome.stderr Outcome.failed
  refine isPart_append_right ?_ _
  unfold Problem.report
  exact isPart_append_right (isPart_append_right (isPart_append_right
    (isPart_append_right hmessage _) _) _) _

theorem reveals_of_showsKey {o : Options} (h : parse args s.env = .ok ⟨o, .configShow⟩)
    (hshows : ShowsKey s.configFile s.env) : Reveals s args := by
  obtain ⟨file, fault, hfile, ⟨k, hk, htext, rfl⟩, hload⟩ := hshows
  have hrun : run s args = .failed (.config (.unreadable
      (sourceOf file (ofEnvironment s.env) k.1) ⟨k.1, .wrongType k.2.found .text⟩)) := by
    rw [run_of_show h, runShow, hload]
    rfl
  refine ⟨file, hfile, k, hk, htext, by rw [hrun]; rfl, ?_⟩
  rw [hrun]
  exact isPart_describe_stderr s.wording _ k.1 k.2.found .text

/-- What is shown of configurations that are the same under the veil. -/
theorem runShow_of_veiled {o : Options} (key : Option String)
    (h : (load s.configFile s.env).map veiled = (load s'.configFile s'.env).map veiled) :
    runShow s o = runShow s' { o with apiKey := key } := by
  unfold runShow
  cases hload : load s.configFile s.env with
  | error e =>
    cases hload' : load s'.configFile s'.env with
    | error e' =>
      rw [hload, hload'] at h
      cases h
      rfl
    | ok c' =>
      rw [hload, hload'] at h
      cases h
  | ok c =>
    cases hload' : load s'.configFile s'.env with
    | error e' =>
      rw [hload, hload'] at h
      cases h
    | ok c' =>
      rw [hload, hload'] at h
      have hveiled : c.veiled = c'.veiled := Except.ok.inj h
      have hactive : activeProfile o c = activeProfile { o with apiKey := key } c' := by
        have hdefault : c.veiled.defaultProfile = c'.veiled.defaultProfile := by rw [hveiled]
        exact congrArg o.profile.getD hdefault
      show Outcome.done _ = Outcome.done _
      rw [← showConfig_veiled c, ← showConfig_veiled c', hveiled, hactive]

/-- **Two runs that show a configuration, from sources that differ in their keys alone, come to the
same**, unless one reports on its sources and what it reports is a key that is no text. -/
theorem run_show_of_same (s s' : Surroundings) (args : List String) (o : Options)
    (hparse : parse args s.env = .ok ⟨o, .configShow⟩)
    (hfile : SameFile s.configFile s'.configFile) (henv : SameVariables s.env s'.env) :
    (∀ c c', load s.configFile s.env = .ok c → load s'.configFile s'.env = .ok c' →
      run s args = run s' args) ∧
    (HasTextKeys s → HasTextKeys s' → run s args = run s' args) ∧
    (run s args = run s' args ∨ Reveals s args ∨ Reveals s' args) := by
  obtain ⟨key, hparse'⟩ := parse_of_same henv hparse
  have hsame : run s args = run s' args ∨ Reveals s args ∨ Reveals s' args := by
    obtain hveiled | hshows | hshows := veiled_load hfile henv
    · left
      rw [run_of_show hparse, run_of_show hparse']
      exact runShow_of_veiled key hveiled
    · exact .inr (.inl (reveals_of_showsKey hparse hshows))
    · exact .inr (.inr (reveals_of_showsKey hparse' hshows))
  have hloaded {s : Surroundings} {o : Options} {c : Config}
      (hparse : parse args s.env = .ok ⟨o, .configShow⟩)
      (hload : load s.configFile s.env = .ok c) : ¬ Reveals s args := by
    rintro ⟨file, -, k, -, -, hstop, -⟩
    rw [run_of_show hparse, runShow, hload] at hstop
    cases hstop
  have htexts {s : Surroundings} (h : HasTextKeys s) : ¬ Reveals s args := by
    rintro ⟨file, hfile, k, hk, htext, -, -⟩
    obtain ⟨t, ht⟩ := h file hfile k hk
    exact htext t ht
  refine ⟨fun c c' hc hc' => ?_, fun hs hs' => ?_, hsame⟩
  · exact hsame.resolve_right (not_or.2 ⟨hloaded hparse hc, hloaded hparse' hc'⟩)
  · exact hsame.resolve_right (not_or.2 ⟨htexts hs, htexts hs'⟩)

end Runs

/-! ### Runs with keys -/

/-- Surroundings with a file and variables, and nothing else. -/
def surroundingsOf (file : String) (env : Environment) : Surroundings where
  env := env
  configFile := some file
  wording := .usual "config.toml"
  files _ := .error .notFound
  boundary := ""
  post _ := .error .timeout
  converse _ _ _ := .ok []

/-- Variables with two keys: one for a profile, and one of the options. -/
def keyVariables (key option : String) : Environment :=
  [("REPLINK_API_KEY", option), ("REPLINK_PROFILES__P__API_KEY", key)]

theorem sameVariables_keyVariables (key key' option option' : String) :
    SameVariables (keyVariables key option) (keyVariables key' option') := by
  have hkey : settingPath? "REPLINK_PROFILES__P__API_KEY" = some ["profiles", "p", "api_key"] := by
    decide +kernel
  have hoption : settingPath? "REPLINK_API_KEY" = some ["api_key"] := by
    decide +kernel
  refine .cons ⟨rfl, ?_, .inr ?_⟩ (.cons (sameVariable_of_key hkey _ _) .nil)
  · simp only [ofVariable, hoption]
    rfl
  · simp [maySayKeys, hoption]

/-- The options of a command line that shows the configuration. -/
def showOptions (key : String) : Options :=
  ⟨none, none, none, some key, .json, 0, defaultTimeout⟩

/-- With other keys the same is shown. -/
theorem run_show_of_keys :
    run (surroundingsOf hostFile (keyVariables "k1" "a")) ["config", "show"] =
      run (surroundingsOf hostFile (keyVariables "another" "b")) ["config", "show"] := by
  have hparse : parse ["config", "show"] (keyVariables "k1" "a") =
      .ok ⟨showOptions "a", .configShow⟩ := by
    decide +kernel
  have hload : load (some hostFile) (keyVariables "k1" "a") =
      .ok ((TextKey.ofProfile "p" .apiKey).put "k1" hostConfig) :=
    ok_of_toOption (by decide +kernel)
  have hload' : load (some hostFile) (keyVariables "another" "b") =
      .ok ((TextKey.ofProfile "p" .apiKey).put "another" hostConfig) :=
    ok_of_toOption (by decide +kernel)
  exact (run_show_of_same (surroundingsOf hostFile (keyVariables "k1" "a"))
    (surroundingsOf hostFile (keyVariables "another" "b")) ["config", "show"] (showOptions "a")
    hparse (.inl rfl) (sameVariables_keyVariables _ _ _ _)).1 _ _ hload hload'

/-- What is said beside the output of a run that shows the configuration with a key for a
profile. -/
def saidOf (key : String) : String :=
  (run (surroundingsOf hostFile (keyVariables key "a")) ["config", "show"]).stderr
    (.usual "config.toml")

/-- A key that happens to be a number is reported. -/
theorem numeric_key_reported :
    (load (some hostFile) (keyVariables "12345" "a")).toOption = none ∧
    (load (some hostFile) (keyVariables "678" "a")).toOption = none ∧
    saidOf "12345" ≠ saidOf "678" ∧
    ¬ ∀ (s s' : Surroundings) (args : List String) (o : Options),
      parse args s.env = .ok ⟨o, .configShow⟩ → SameFile s.configFile s'.configFile →
      SameVariables s.env s'.env → s.wording = s'.wording →
      (load s.configFile s.env).toOption = none → (load s'.configFile s'.env).toOption = none →
      (run s args).stderr s.wording = (run s' args).stderr s'.wording := by
  have hfails : (load (some hostFile) (keyVariables "12345" "a")).toOption = none := by
    decide +kernel
  have hfails' : (load (some hostFile) (keyVariables "678" "a")).toOption = none := by
    decide +kernel
  have hsaid : saidOf "12345" ≠ saidOf "678" := by
    decide +kernel
  refine ⟨hfails, hfails', hsaid, fun hall => hsaid ?_⟩
  have hparse : parse ["config", "show"] (keyVariables "12345" "a") =
      .ok ⟨showOptions "a", .configShow⟩ := by
    decide +kernel
  exact hall (surroundingsOf hostFile (keyVariables "12345" "a"))
    (surroundingsOf hostFile (keyVariables "678" "a")) ["config", "show"] (showOptions "a") hparse
    (.inl rfl) (sameVariables_keyVariables _ _ _ _) rfl hfails hfails'

end PrintClient.CommandLine
