import PrintClient.CommandLine.Resolved

/-!
# The server of a command and the endpoint of a profile

A command asks for a profile: the one in force with the options in place of its values, or a profile
of the options alone. The endpoint that the command gets is meant to be the one that this profile
has. The profile checks its host and its port, and takes the blanks around the host away. The
resolution of options checks the host of a profile only: it lets port zero pass, and the host of
options alone passes as it stands.

* `Options.over`, `Options.alone`, `asked?`: the profile that a command asks for;
* `Agrees`: the command gets what the profile gives;
* `Endpoint.IsUsable`: an endpoint as a profile gives it;
* `agrees_iff`: when the two agree;
* `isUsable_iff`: when the endpoint is one that a server can have;
* `resolve_agrees_iff`: for all options, configurations and environments.
-/

namespace PrintClient

/-- A host as an endpoint needs it: not blank, and without blanks around it. -/
def IsHost (host : String) : Prop := Text.trim host = host ∧ host ≠ ""

instance (host : String) : Decidable (IsHost host) := inferInstanceAs (Decidable (_ ∧ _))

/-- A host and a port that a server can have. -/
structure Endpoint.IsUsable (e : Endpoint) : Prop where
  host : IsHost e.host
  port : e.port ≠ 0

namespace Text

theorem dropWhile_trimmed {q : Char → Bool} {cs ds : List Char} (h : ds <+: cs.dropWhile q) :
    ds.dropWhile q = ds := by
  cases ds with
  | nil => rfl
  | cons d ds =>
    obtain ⟨rest, hrest⟩ := h
    have hhead := List.head?_dropWhile_not q cs
    rw [← hrest] at hhead
    exact List.dropWhile_cons_of_neg (by rw [hhead]; decide)

theorem trimChars_trimChars (cs : List Char) : trimChars (trimChars cs) = trimChars cs := by
  have hreverse : (trimChars cs).reverse = (cs.dropWhile isBlank).reverse.dropWhile isBlank :=
    List.reverse_reverse _
  have hprefix : trimChars cs <+: cs.dropWhile isBlank := by
    rw [← List.reverse_suffix, hreverse]
    exact List.dropWhile_suffix isBlank
  unfold trimChars at hprefix ⊢
  rw [dropWhile_trimmed hprefix, List.reverse_reverse, dropWhile_trimmed List.prefix_rfl]

/-- The blanks are taken away at once. -/
theorem trim_trim (s : String) : trim (trim s) = trim s := by
  rw [trim, trim, String.toList_ofList, trimChars_trimChars]

end Text

namespace CommandLine

/-! ### The profile that is asked for -/

/-- A profile with the options in place of its values. A key among the options is used whatever the
profile says about keys. -/
def Options.over (o : Options) (p : Profile) : Profile :=
  { p with
    host := o.host.getD p.host
    port := o.port.getD p.port
    apiKey := o.apiKey.or p.apiKey
    apiKeyEnv := if o.apiKey.isSome then none else p.apiKeyEnv }

/-- The profile of a host and a key among the options. -/
def Options.alone (o : Options) (host key : String) : Profile :=
  ⟨host, o.port.getD defaultPort, some key, none, none⟩

/-- The profile that a command asks for: the one in force under the options, or the one of the
options alone where no profile was named. -/
def asked? (o : Options) (c : Config) : Option Profile :=
  match Dict.find? (activeProfile o c) c.profiles with
  | some p => some (o.over p)
  | none =>
    if o.profile.isSome then none
    else o.host.bind fun host => o.apiKey.map fun key => o.alone host key

/-- The command gets the endpoint of a profile, or the error for which it has none. -/
def Agrees (o : Options) (c : Config) (env : Config.Environment) (p : Profile) : Prop :=
  (resolve o c env).map Resolved.endpoint =
    (p.endpoint (activeProfile o c) env).mapError .ofConfigError

/-- What has to hold of the values of a profile for the command to get what the profile gives. Of
the values in a profile of the configuration only the port can be at fault. -/
def Passes (o : Options) (c : Config) (p : Profile) : Prop :=
  if (Dict.find? (activeProfile o c) c.profiles).isSome then Text.trim p.host = "" ∨ p.port ≠ 0
  else IsHost p.host ∧ p.port ≠ 0

section

variable {o : Options} {c : Config} {env : Config.Environment} {p : Profile} {name : String}

theorem resolveKey_over (o : Options) (p : Profile) (name : String) (env : Config.Environment) :
    (o.over p).resolveKey name env =
      match o.apiKey with
      | some key => .ok key
      | none => p.resolveKey name env := by
  unfold Profile.resolveKey Options.over
  cases o.apiKey <;> rfl

/-! ### A profile of the configuration -/

/-- What the resolution checks before it asks for a key. -/
theorem resolveProfile_eq (o : Options) (p : Profile) (name : String) (env : Config.Environment) :
    resolveProfile o p name env =
      if Text.trim (o.over p).host = "" then .error (.validation "host" "must not be empty")
      else (((o.over p).resolveKey name env).mapError .ofConfigError).map fun key =>
        ⟨Text.trim (o.over p).host, (o.over p).port, key⟩ := by
  rw [resolveKey_over, resolveProfile]
  by_cases hblank : Text.trim (o.over p).host = ""
  · rw [if_pos hblank]
    exact if_pos hblank
  · rw [if_neg hblank]
    refine (if_neg hblank).trans ?_
    cases o.apiKey with
    | some key => rfl
    | none =>
      dsimp only
      cases p.resolveKey name env <;> rfl

theorem eq_noCredentials_of_resolveKey {e : ConfigError} (h : p.resolveKey name env = .error e) :
    e = .noCredentials name := by
  unfold Profile.resolveKey at h
  split at h
  · cases h
  · split at h <;> cases h
    rfl

/-- The command gets what the profile under the options gives, unless the host is one and the port
is zero. -/
theorem resolveProfile_eq_endpoint_iff :
    resolveProfile o p name env = ((o.over p).endpoint name env).mapError .ofConfigError ↔
      Text.trim (o.over p).host = "" ∨ (o.over p).port ≠ 0 := by
  rw [resolveProfile_eq, Profile.endpoint]
  generalize o.over p = q
  by_cases hblank : Text.trim q.host = ""
  · rw [if_pos hblank, if_pos hblank]
    exact ⟨fun _ => .inl hblank, fun _ => rfl⟩
  · rw [if_neg hblank, if_neg hblank, or_iff_right hblank]
    by_cases hport : q.port = 0
    · rw [if_pos hport]
      refine ⟨fun h => ?_, fun h => absurd hport h⟩
      cases hkey : q.resolveKey name env with
      | ok key =>
        rw [hkey] at h
        cases h
      | error e =>
        obtain rfl := eq_noCredentials_of_resolveKey hkey
        rw [hkey] at h
        cases h
    · rw [if_neg hport]
      refine ⟨fun _ => hport, fun _ => ?_⟩
      cases q.resolveKey name env <;> rfl

theorem isUsable_of_resolveProfile {e : Endpoint} (h : resolveProfile o p name env = .ok e) :
    e.IsUsable ↔ Text.trim (o.over p).host = "" ∨ (o.over p).port ≠ 0 := by
  rw [resolveProfile_eq] at h
  generalize o.over p = q at h
  by_cases hblank : Text.trim q.host = ""
  · rw [if_pos hblank] at h
    cases h
  · rw [if_neg hblank] at h
    cases hkey : q.resolveKey name env with
    | error e =>
      rw [hkey] at h
      cases h
    | ok key =>
      rw [hkey] at h
      cases h
      rw [or_iff_right hblank]
      exact ⟨fun h => h.port, fun h => ⟨⟨Text.trim_trim q.host, hblank⟩, h⟩⟩

/-! ### The options alone -/

/-- A profile with a key gives the endpoint of its values as they stand, exactly if they are fit. -/
theorem ok_eq_endpoint_iff {key : String} (hkey : p.resolveKey name env = .ok key) :
    (.ok ⟨p.host, p.port, key⟩ : Except Problem Endpoint) =
      (p.endpoint name env).mapError .ofConfigError ↔ IsHost p.host ∧ p.port ≠ 0 := by
  rw [Profile.endpoint, hkey, IsHost]
  by_cases hblank : Text.trim p.host = ""
  · rw [if_pos hblank]
    refine ⟨fun h => (by cases h), ?_⟩
    rintro ⟨⟨htrim, hne⟩, -⟩
    exact absurd (htrim.symm.trans hblank) hne
  · rw [if_neg hblank]
    by_cases hport : p.port = 0
    · rw [if_pos hport]
      exact ⟨fun h => (by cases h), fun h => absurd hport h.2⟩
    · rw [if_neg hport]
      constructor
      · intro h
        have htrim : p.host = Text.trim p.host := congrArg Endpoint.host (Except.ok.inj h)
        refine ⟨⟨htrim.symm, fun hempty => hblank ?_⟩, hport⟩
        rw [← htrim, hempty]
      · rintro ⟨⟨htrim, -⟩, -⟩
        rw [htrim]
        rfl

/-! ### All commands -/

section Resolve

variable {r : Resolved}

theorem resolve_of_find? (h : Dict.find? (activeProfile o c) c.profiles = some p) :
    (resolve o c env).map Resolved.endpoint = resolveProfile o p (activeProfile o c) env := by
  unfold resolve
  dsimp only
  rw [h]
  dsimp only
  cases resolveProfile o p (activeProfile o c) env <;> rfl

theorem resolve_of_alone {host key : String}
    (hfind : Dict.find? (activeProfile o c) c.profiles = none) (hprofile : o.profile = none)
    (hhost : o.host = some host) (hkey : o.apiKey = some key) :
    (resolve o c env).map Resolved.endpoint = .ok ⟨host, o.port.getD defaultPort, key⟩ := by
  unfold resolve
  dsimp only
  rw [hfind]
  dsimp only
  rw [hprofile, resolveAlone, hhost, hkey]
  rfl

/-- Where a command gets a server, it asked for a profile. -/
theorem asked?_of_resolve (h : resolve o c env = .ok r) : ∃ p, asked? o c = some p := by
  unfold resolve at h
  unfold asked?
  dsimp only at h
  cases hfind : Dict.find? (activeProfile o c) c.profiles with
  | some p => exact ⟨_, rfl⟩
  | none =>
    rw [hfind] at h
    dsimp only at h ⊢
    by_cases hprofile : o.profile.isSome = true
    · rw [if_pos hprofile] at h
      cases h
    · rw [if_neg hprofile] at h ⊢
      unfold resolveAlone at h
      cases hhost : o.host with
      | none =>
        rw [hhost] at h
        cases h
      | some host =>
        cases hkey : o.apiKey with
        | none =>
          rw [hhost, hkey] at h
          cases h
        | some key => exact ⟨_, rfl⟩

/-- What is asked for is a profile of the configuration under the options, or one of the options
alone. -/
theorem cases_of_asked? (h : asked? o c = some p) :
    (∃ q, Dict.find? (activeProfile o c) c.profiles = some q ∧ p = o.over q) ∨
    ∃ host key, Dict.find? (activeProfile o c) c.profiles = none ∧ o.profile = none ∧
      o.host = some host ∧ o.apiKey = some key ∧ p = o.alone host key := by
  unfold asked? at h
  split at h
  · rename_i q hfind
    cases h
    exact .inl ⟨q, hfind, rfl⟩
  · rename_i hfind
    split at h
    · cases h
    · rename_i hprofile
      obtain ⟨host, hhost, h⟩ := Option.bind_eq_some_iff.1 h
      obtain ⟨key, hkey, rfl⟩ := Option.map_eq_some_iff.1 h
      exact .inr ⟨host, key, hfind, by simpa using hprofile, hhost, hkey, rfl⟩

/-- **A command gets what the profile that it asks for gives, exactly if the profile passes.** -/
theorem agrees_iff (h : asked? o c = some p) : Agrees o c env p ↔ Passes o c p := by
  unfold Agrees Passes
  rcases cases_of_asked? h with ⟨q, hfind, rfl⟩ | ⟨host, key, hfind, hprofile, hhost, hkey, rfl⟩
  · rw [resolve_of_find? hfind, resolveProfile_eq_endpoint_iff, hfind]
    rfl
  · rw [resolve_of_alone hfind hprofile hhost hkey, hfind]
    exact ok_eq_endpoint_iff (p := o.alone host key) rfl

/-- Where a command gets a server, it is usable exactly if the profile passes. -/
theorem isUsable_iff (h : asked? o c = some p) (hr : resolve o c env = .ok r) :
    r.endpoint.IsUsable ↔ Passes o c p := by
  have hendpoint : (resolve o c env).map Resolved.endpoint = .ok r.endpoint := by
    rw [hr]
    rfl
  unfold Passes
  rcases cases_of_asked? h with ⟨q, hfind, rfl⟩ | ⟨host, key, hfind, hprofile, hhost, hkey, rfl⟩
  · rw [resolve_of_find? hfind] at hendpoint
    rw [isUsable_of_resolveProfile hendpoint, hfind]
    rfl
  · rw [resolve_of_alone hfind hprofile hhost hkey] at hendpoint
    rw [← Except.ok.inj hendpoint, hfind]
    exact ⟨fun h => ⟨h.host, h.port⟩, fun h => ⟨h.1, h.2⟩⟩

end Resolve

end

/-- **The resolution of a command agrees with the endpoint of the profile that it asks for, exactly
if the profile passes**; and every endpoint that it gives has a host and a port that a server can
have under the same condition. -/
theorem resolve_agrees_iff (o : Options) (c : Config) (env : Config.Environment) :
    (∀ p, asked? o c = some p → (Agrees o c env p ↔ Passes o c p)) ∧
    ∀ r, resolve o c env = .ok r →
      ∃ p, asked? o c = some p ∧ (r.endpoint.IsUsable ↔ Passes o c p) := by
  refine ⟨fun p h => agrees_iff h, fun r hr => ?_⟩
  obtain ⟨p, h⟩ := asked?_of_resolve hr
  exact ⟨p, h, isUsable_iff h hr⟩

/-- Options with a server and nothing else. -/
def Options.ofServer (host : Option String) (port : Option UInt16) (key : Option String) :
    Options :=
  ⟨none, host, port, key, .json, 0, defaultTimeout⟩

/-- A host and a key among the options make a profile that passes. -/
theorem resolve_agrees_of_options :
    ∃ p r, asked? (.ofServer (some "makerpi") none (some "k")) .builtin = some p ∧
      resolve (.ofServer (some "makerpi") none (some "k")) .builtin [] = .ok r ∧
      Agrees (.ofServer (some "makerpi") none (some "k")) .builtin [] p ∧ r.endpoint.IsUsable := by
  have hpasses : Passes (.ofServer (some "makerpi") none (some "k")) .builtin
      (Options.alone (.ofServer (some "makerpi") none (some "k")) "makerpi" "k") :=
    ⟨by decide +kernel, by decide⟩
  obtain ⟨hagrees, husable⟩ :=
    resolve_agrees_iff (.ofServer (some "makerpi") none (some "k")) .builtin []
  obtain ⟨p, hp, hiff⟩ := husable _ rfl
  cases hp
  exact ⟨_, _, rfl, rfl, (hagrees _ rfl).2 hpasses, hiff.2 hpasses⟩

/-- Port zero passes, among the options and in a profile, and the blanks around a host among the
options are kept. -/
theorem port_zero_resolved :
    (resolve (.ofServer (some "h") (some 0) (some "k")) .builtin []).map Resolved.endpoint =
      .ok ⟨"h", 0, "k"⟩ ∧
    (resolve (.ofServer (some " h ") none (some "k")) .builtin []).map Resolved.endpoint =
      .ok ⟨" h ", defaultPort, "k"⟩ ∧
    (resolve (.ofServer none none none)
      ⟨"p", .builtin, [("p", ⟨"h", 0, some "k", none, none⟩)]⟩ []).map Resolved.endpoint =
      .ok ⟨"h", 0, "k"⟩ ∧
    ¬ ∀ (o : Options) (c : Config) (env : Config.Environment) (p : Profile),
      asked? o c = some p → Agrees o c env p := by
  refine ⟨rfl, rfl, ?_, fun hall => ?_⟩
  · rw [resolve_of_find? rfl, resolveProfile_eq, if_neg (by decide +kernel)]
    rfl
  · have hagrees := hall (.ofServer (some "h") (some 0) (some "k")) .builtin [] _ rfl
    exact absurd rfl ((agrees_iff rfl).1 hagrees).2

end CommandLine

end PrintClient
