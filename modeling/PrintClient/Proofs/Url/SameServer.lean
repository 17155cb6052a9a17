import Mathlib.Data.List.TakeWhile
import PrintClient.Endpoint
import PrintClient.Proofs.Json.Numerals
import PrintClient.Proofs.Url.HostCharacters

/-!
# One server for the session and the uploads

The URLs of an endpoint are made by writing its host between slashes and a port, and reading the
text again. A host with a character that ends the host of a URL, or what stands before it, is taken
apart there: the URL then has a user, or no port, or leads to a shorter host. Every other host comes
back as it is, with the port of the endpoint, in the URL of the socket as well as in those of
uploads.

* `Endpoint.Addressed`: a URL leads to the server of the endpoint and nowhere else;
* `hostChars_cases`: where the name of a host ends;
* `readAfterSlashes_server`: what is read from a host and a port;
* `addressed_iff`: when the URL of a server leads to it;
* `session_and_upload_addressed_iff`: the two URLs are the same up to scheme and path, and when they
  lead to the server.
-/

namespace PrintClient

namespace Url

/-- The characters that end the host of a URL, or what stands before it. -/
def serverEnds : List Char := ['#', '/', '?', '@', '\\']

/-! ### Ports -/

section Port

variable {scheme : Scheme} {cs : List Char} {port : Option UInt16}

theorem digits_of_readPort (h : readPort scheme cs = .ok port) : ∀ c ∈ cs, c.isDigit = true := by
  unfold readPort at h
  split at h
  · rename_i hall
    exact List.all_eq_true.1 hall
  · cases h

/-- A port is read as it is written, unless the scheme stands for it. -/
theorem getD_of_readPort {n : UInt16}
    (h : readPort scheme (Nat.toDigits 10 n.toNat) = .ok port) : port.getD scheme.port = n := by
  have hvalue : (Nat.toDigits 10 n.toNat).foldl (fun n c => n * 10 + (c.toNat - 48)) 0 = n.toNat :=
    Json.digitsValue_toDigits n.toNat
  have hdigits := Json.isDigits_toDigits n.toNat
  unfold readPort at h
  rw [if_pos (List.all_eq_true.2 hdigits.2), hvalue] at h
  dsimp only at h
  rw [if_neg (Nat.not_lt.2 (Nat.le_of_lt_succ n.toNat_lt)), UInt16.ofNat_toNat] at h
  by_cases hscheme : n = scheme.port
  · rw [if_pos (.inr hscheme)] at h
    cases h
    exact hscheme.symm
  · rw [if_neg (not_or.2 ⟨hdigits.1, hscheme⟩)] at h
    cases h
    rfl

end Port

/-! ### The host between the slashes and the port -/

section Place

variable {cs ds es : List Char}

/-- The name of a host is all there is, or a colon follows it. -/
theorem hostChars_cases (inside : Bool) (cs : List Char) :
    hostChars inside cs = cs ∨ ∃ rest, cs = hostChars inside cs ++ ':' :: rest := by
  induction cs generalizing inside with
  | nil => exact .inl rfl
  | cons c rest ih =>
    rw [hostChars]
    by_cases hcolon : c = ':' ∧ !inside
    · rw [if_pos hcolon, hcolon.1]
      exact .inr ⟨rest, rfl⟩
    · rw [if_neg hcolon]
      rcases ih (c = '[' || (inside && c ≠ ']')) with h | ⟨tail, h⟩
      · exact .inl (congrArg (c :: ·) h)
      · exact .inr ⟨tail, congrArg (c :: ·) h⟩

theorem not_colon_of_digits (h : ∀ c ∈ ds, c.isDigit = true) : ':' ∉ ds :=
  fun hmem => absurd (h ':' hmem) (by decide)

/-- What stands before the last colon and behind it is determined. -/
theorem append_colon_inj {name : List Char} (hds : ':' ∉ ds) (hes : ':' ∉ es)
    (h : cs ++ ':' :: ds = name ++ ':' :: es) : cs = name ∧ ds = es := by
  rcases List.append_eq_append_iff.1 h with ⟨between, rfl, hrest⟩ | ⟨between, rfl, hrest⟩
  · cases between with
    | nil =>
      cases hrest
      exact ⟨(List.append_nil cs).symm, rfl⟩
    | cons c between =>
      cases hrest
      exact absurd (List.mem_append_right between List.mem_cons_self) hds
  · cases between with
    | nil =>
      cases hrest
      exact ⟨List.append_nil name, rfl⟩
    | cons c between =>
      cases hrest
      exact absurd (List.mem_append_right between List.mem_cons_self) hes

/-- A text that ends with a port after a colon is no host. -/
theorem Host.parse_with_port {host : Host} (hne : ds ≠ []) (hds : ∀ c ∈ ds, c.isDigit = true) :
    Host.parse (cs ++ ':' :: ds) ≠ .ok host := by
  intro h
  rcases Host.cases_of_parse h with ⟨address, heq, -⟩ | hname
  · have hlast := congrArg List.getLast? heq
    rw [List.getLast?_append_of_ne_nil _ (List.cons_ne_nil _ _),
      List.getLast?_cons_of_ne_nil hne, List.getLast?_concat] at hlast
    exact absurd (hds _ (List.mem_of_getLast? hlast)) (by decide)
  · exact hname ':' (by decide) (List.mem_append_right cs List.mem_cons_self)

theorem readUser_of_not_mem (h : '@' ∉ cs) : readUser cs = (("", none), cs) := by
  have hall : ∀ c ∈ cs.reverse, decide (c ≠ '@') = true := by
    intro c hc
    rw [decide_eq_true_iff]
    rintro rfl
    exact h (List.mem_reverse.1 hc)
  rw [readUser, List.takeWhile_eq_self_iff.2 hall, List.reverse_reverse, if_pos rfl]

variable {scheme : Scheme} {port : UInt16} {u : Url}

/-- A place without the characters that end a host is followed by the path alone. -/
theorem readAfterSlashes_place (hplain : ∀ c ∈ serverEnds, c ∉ cs)
    (h : readAfterSlashes scheme (cs ++ ['/']) = .ok u) :
    u.scheme = scheme ∧ u.user = "" ∧ u.password = none ∧ u.query = none ∧ u.fragment = none ∧
      Host.parse (hostChars false cs) = .ok u.host ∧
      readPort scheme (cs.drop ((hostChars false cs).length + 1)) = .ok u.port := by
  have hends : ∀ c, isAuthorityEnd c = true → c ∈ serverEnds := by
    intro c hc
    simp only [isAuthorityEnd, Bool.or_eq_true, decide_eq_true_eq] at hc
    rcases hc with ((rfl | rfl) | rfl) | rfl <;> decide
  have hauthority : (cs ++ ['/']).takeWhile (!isAuthorityEnd ·) = cs := by
    rw [List.takeWhile_append_of_pos]
    · exact List.append_nil cs
    · intro c hc
      rw [Bool.not_eq_true', Bool.eq_false_iff]
      exact fun hend => hplain c (hends c hend) hc
  unfold readAfterSlashes at h
  dsimp only at h
  rw [hauthority, readUser_of_not_mem (hplain '@' (by decide)), List.drop_left] at h
  dsimp only at h
  split at h
  · cases h
  · split at h
    · cases h
    · rename_i host hhost
      split at h
      · cases h
      · rename_i port hport
        cases h
        exact ⟨rfl, rfl, rfl, rfl, rfl, hhost, hport⟩

/-- **A host without those characters is read as it is written, with the port behind it.** -/
theorem readAfterSlashes_server (hplain : ∀ c ∈ serverEnds, c ∉ cs)
    (h : readAfterSlashes scheme (cs ++ ':' :: Nat.toDigits 10 port.toNat ++ ['/']) = .ok u) :
    u.user = "" ∧ u.password = none ∧ u.query = none ∧ u.fragment = none ∧
      Host.parse cs = .ok u.host ∧ u.effectivePort = port := by
  have hdigits := Json.isDigits_toDigits port.toNat
  have hplace : ∀ c ∈ serverEnds, c ∉ cs ++ ':' :: Nat.toDigits 10 port.toNat := by
    have hother : ∀ c ∈ serverEnds, c ≠ ':' ∧ c.isDigit = false :=
      forall_of_all (by decide)
    intro c hc hmem
    rcases List.mem_append.1 hmem with hcs | hport
    · exact hplain c hc hcs
    · rcases List.mem_cons.1 hport with hcolon | hdigit
      · exact (hother c hc).1 hcolon
      · exact absurd (hdigits.2 c hdigit) (by rw [(hother c hc).2]; decide)
  obtain ⟨hscheme, huser, hpassword, hquery, hfragment, hhost, hport⟩ :=
    readAfterSlashes_place hplace h
  refine ⟨huser, hpassword, hquery, hfragment, ?_⟩
  rcases hostChars_cases false (cs ++ ':' :: Nat.toDigits 10 port.toNat) with hall | ⟨rest, hrest⟩
  · rw [hall] at hhost
    exact absurd hhost (Host.parse_with_port hdigits.1 hdigits.2)
  · -- the colon behind the name is the last one, for there are only digits behind it
    generalize hostChars false (cs ++ ':' :: Nat.toDigits 10 port.toNat) = name at *
    have hdrop : (name ++ ':' :: rest).drop (name.length + 1) = rest := by
      rw [List.append_cons]
      exact List.drop_left' (by rw [List.length_append, List.length_singleton])
    rw [hrest, hdrop] at hport
    obtain ⟨rfl, rfl⟩ := append_colon_inj (not_colon_of_digits hdigits.2)
      (not_colon_of_digits (digits_of_readPort hport)) hrest
    refine ⟨hhost, ?_⟩
    rw [effectivePort, hscheme]
    exact getD_of_readPort hport

end Place

/-! ### The text of the server -/

section Text

/-- Whether a character is one of the slashes behind the scheme. -/
def isSlash (c : Char) : Bool := c = '/' || c = '\\'

theorem readScheme?_name (scheme : Scheme) (rest : List Char) :
    readScheme? (scheme.name.toList ++ ':' :: rest) = some (scheme.name, rest) := by
  cases scheme <;> rfl

theorem find?_name (scheme : Scheme) :
    Scheme.all.find? (fun s => s.name = scheme.name) = some scheme := by
  cases scheme <;> decide

/-- Nothing is dropped at the ends of a text that begins with a scheme and ends with a slash. -/
theorem trim_of_scheme (scheme : Scheme) (cs : List Char) :
    (((scheme.name.toList ++ ':' :: (cs ++ ['/'])).dropWhile isEdge).reverse.dropWhile
      isEdge).reverse = scheme.name.toList ++ ':' :: (cs ++ ['/']) := by
  have hfirst : ∃ c rest, scheme.name.toList = c :: rest ∧ ¬ isEdge c = true := by
    cases scheme <;> exact ⟨_, _, rfl, by decide⟩
  obtain ⟨c, rest, hname, hedge⟩ := hfirst
  rw [hname, List.cons_append, List.dropWhile_cons_of_neg hedge, ← List.cons_append, ← hname]
  rw [← List.cons_append, ← List.append_assoc, List.reverse_append, List.reverse_singleton,
    List.singleton_append, List.dropWhile_cons_of_neg (by decide), List.reverse_cons,
    List.reverse_reverse]

/-- What is read behind the scheme of the URL of a server. -/
theorem parse_server (scheme : Scheme) (host : String) (port : UInt16) :
    Url.parse (scheme.name ++ "://" ++ host ++ ":" ++ toString port.toNat ++ "/") =
      (readAfterSlashes scheme ((host.toList.filter (!isDropped ·) ++
        ':' :: Nat.toDigits 10 port.toNat ++ ['/']).dropWhile isSlash)).map some := by
  have htext : (scheme.name ++ "://" ++ host ++ ":" ++ toString port.toNat ++ "/").toList =
      scheme.name.toList ++ ':' :: ('/' :: '/' :: (host.toList ++
        ':' :: Nat.toDigits 10 port.toNat) ++ ['/']) := by
    rw [← Nat.toList_repr]
    simp only [String.toList_append, List.append_assoc, List.cons_append]
    rfl
  have hname : scheme.name.toList.filter (!isDropped ·) = scheme.name.toList := by
    cases scheme <;> rfl
  have hport : (Nat.toDigits 10 port.toNat).filter (!isDropped ·) = Nat.toDigits 10 port.toNat := by
    refine List.filter_eq_self.2 fun c hc => ?_
    have hdigit := (Json.isDigits_toDigits port.toNat).2 c hc
    rw [Bool.not_eq_true', Bool.eq_false_iff]
    intro hdropped
    simp only [isDropped, Bool.or_eq_true, decide_eq_true_eq] at hdropped
    rcases hdropped with (rfl | rfl) | rfl <;> cases hdigit
  have hfilter : (scheme.name.toList ++ ':' :: ('/' :: '/' :: (host.toList ++
      ':' :: Nat.toDigits 10 port.toNat) ++ ['/'])).filter (!isDropped ·) =
      scheme.name.toList ++ ':' :: '/' :: '/' :: (host.toList.filter (!isDropped ·) ++
        ':' :: Nat.toDigits 10 port.toNat ++ ['/']) := by
    have hkept : isDropped ':' = false ∧ isDropped '/' = false := by decide
    simp only [List.filter_append, List.filter_cons, List.filter_nil, List.cons_append,
      List.append_assoc, hkept, hname, hport, Bool.not_false, if_true]
  unfold Url.parse
  dsimp only
  rw [htext, trim_of_scheme, hfilter, readScheme?_name]
  dsimp only
  rw [find?_name]
  rfl

end Text

end Url

namespace Endpoint

open Url

variable {e : Endpoint} {scheme : Scheme} {u base : Url}

/-- The characters of the host in a URL, as far as they count. -/
def writtenHost (e : Endpoint) : List Char := e.hostText.toList.filter (!isDropped ·)

/-- A URL leads to the server of an endpoint: to its host and its port, with nothing else around
them. -/
structure Addressed (e : Endpoint) (u : Url) : Prop where
  user : u.user = ""
  password : u.password = none
  query : u.query = none
  fragment : u.fragment = none
  host : Host.parse e.writtenHost = .ok u.host
  port : u.effectivePort = e.port

/-- Where a URL leads to does not depend on its path. -/
theorem addressed_with_path (path : List String) :
    e.Addressed { u with path := path } ↔ e.Addressed u :=
  ⟨fun h => ⟨h.user, h.password, h.query, h.fragment, h.host, h.port⟩,
    fun h => ⟨h.user, h.password, h.query, h.fragment, h.host, h.port⟩⟩

/-- The host has none of the characters that end the host of a URL, or what stands before it. -/
def IsPlain (e : Endpoint) : Prop := ∀ c ∈ serverEnds, c ∉ e.host.toList

instance (e : Endpoint) : Decidable e.IsPlain :=
  List.decidableBAll (fun c => c ∉ e.host.toList) serverEnds

/-- The characters of the host in a URL are those of the host, and brackets. -/
theorem isPlain_iff : e.IsPlain ↔ ∀ c ∈ serverEnds, c ∉ e.writtenHost := by
  have hall : ∀ c ∈ serverEnds, (!isDropped c) = true ∧ c ∉ "[".toList ∧ c ∉ "]".toList :=
    forall_of_all (by decide)
  refine forall₂_congr fun c hc => not_congr ?_
  obtain ⟨hkept, hopen, hclose⟩ := hall c hc
  rw [writtenHost, List.mem_filter, hostText]
  split
  · simp only [String.toList_append, List.mem_append, hopen, hclose, hkept, false_or, or_false,
      and_true]
  · rw [and_iff_left hkept]

/-- What is read behind the slashes of the URL of a server. -/
theorem baseUrl_eq (e : Endpoint) (scheme : Scheme) :
    e.baseUrl scheme = readAfterSlashes scheme
      ((e.writtenHost ++ ':' :: Nat.toDigits 10 e.port.toNat ++ ['/']).dropWhile isSlash) := by
  rw [baseUrl, parse_server, writtenHost]
  cases readAfterSlashes scheme _ <;> rfl

/-- **The URL of a server leads to it exactly if its host is a plain one.** -/
theorem addressed_iff (h : e.baseUrl scheme = .ok base) : e.Addressed base ↔ e.IsPlain := by
  constructor
  · intro haddressed
    exact isPlain_iff.2 (Host.not_mem_of_parse haddressed.host)
  · intro hplain
    rw [isPlain_iff] at hplain
    rw [baseUrl_eq] at h
    have hslash :
        (e.writtenHost ++ ':' :: Nat.toDigits 10 e.port.toNat ++ ['/']).dropWhile isSlash =
        e.writtenHost ++ ':' :: Nat.toDigits 10 e.port.toNat ++ ['/'] := by
      cases hhost : e.writtenHost with
      | nil => rfl
      | cons c rest =>
        refine List.dropWhile_cons_of_neg fun hc => ?_
        have hend : c ∈ serverEnds := by
          simp only [isSlash, Bool.or_eq_true, decide_eq_true_eq] at hc
          rcases hc with rfl | rfl <;> decide
        exact hplain c hend (hhost ▸ List.mem_cons_self)
    rw [hslash] at h
    obtain ⟨huser, hpassword, hquery, hfragment, hhost, hport⟩ := readAfterSlashes_server hplain h
    exact ⟨huser, hpassword, hquery, hfragment, hhost, hport⟩

/-- The URLs of a server under the schemes of the session and of uploads differ in the scheme
only, for the two stand for one port. -/
theorem baseUrl_ws (e : Endpoint) :
    e.baseUrl .ws = (e.baseUrl .http).map fun u => { u with scheme := .ws } := by
  rw [baseUrl_eq, baseUrl_eq]
  generalize (e.writtenHost ++ _).dropWhile isSlash = cs
  unfold readAfterSlashes
  dsimp only
  split
  · rfl
  · split
    · rfl
    · rename_i host hhost
      have hport (cs : List Char) : readPort .ws cs = readPort .http cs := rfl
      rw [hport]
      split
      · rfl
      · rw [Except.map]

/-- **The session and the uploads address one server.** The URL of the socket and that of an upload
are the same up to their scheme and their path, which for the socket is always the same; and they
lead to the server of the endpoint exactly if its host is a plain one. -/
theorem session_and_upload_addressed_iff (e : Endpoint) (printer : String) (socket upload : Url)
    (hs : e.socketUrl = .ok socket) (hu : e.uploadUrl printer = .ok upload) :
    socket = { upload with scheme := .ws, path := [socketSegment] } ∧
      (e.Addressed socket ↔ e.IsPlain) ∧ (e.Addressed upload ↔ e.IsPlain) := by
  rw [uploadUrl] at hu
  rw [socketUrl, baseUrl_ws] at hs
  cases hbase : e.baseUrl .http with
  | error f =>
    rw [hbase] at hu
    cases hu
  | ok base =>
    have hws : e.baseUrl .ws = .ok { base with scheme := .ws } := by
      rw [baseUrl_ws, hbase]
      rfl
    rw [hbase] at hu hs
    cases hu
    cases hs
    refine ⟨rfl, ?_, ?_⟩
    · exact (addressed_with_path (u := { base with scheme := .ws }) _).trans (addressed_iff hws)
    · exact (addressed_with_path _).trans (addressed_iff hbase)

theorem exists_of_toOption {α β : Type} {x : Except UrlFault α} {f : α → β} {b : β}
    (h : x.toOption.map f = some b) : ∃ a, x = .ok a ∧ f a = b := by
  cases x with
  | error fault => cases h
  | ok a => exact ⟨a, rfl, Option.some_inj.1 h⟩

/-- Both URLs of an address in brackets lead to it, although they do not name the port. -/
theorem session_and_upload_addressed_of_brackets :
    ∃ socket upload, Endpoint.socketUrl ⟨"::1", 80, "k"⟩ = .ok socket ∧
      Endpoint.uploadUrl ⟨"::1", 80, "k"⟩ "mk3" = .ok upload ∧
      socket.text = "ws://[::1]/socket" ∧ upload.text = "http://[::1]/printer/model/mk3" ∧
      Endpoint.Addressed ⟨"::1", 80, "k"⟩ socket ∧ Endpoint.Addressed ⟨"::1", 80, "k"⟩ upload := by
  have hsocket : (Endpoint.socketUrl ⟨"::1", 80, "k"⟩).toOption.map Url.text =
      some "ws://[::1]/socket" := by decide +kernel
  have hupload : (Endpoint.uploadUrl ⟨"::1", 80, "k"⟩ "mk3").toOption.map Url.text =
      some "http://[::1]/printer/model/mk3" := by decide +kernel
  obtain ⟨socket, hs, htext⟩ := exists_of_toOption hsocket
  obtain ⟨upload, hu, htext'⟩ := exists_of_toOption hupload
  have hplain : Endpoint.IsPlain ⟨"::1", 80, "k"⟩ := by decide
  obtain ⟨-, hsession, hmodel⟩ := session_and_upload_addressed_iff _ "mk3" socket upload hs hu
  exact ⟨socket, upload, hs, hu, htext, htext', hsession.2 hplain, hmodel.2 hplain⟩

/-- A slash behind the host takes the port away: both URLs lead to another port of the host than the
one that the session connects to. -/
theorem slash_takes_port_away :
    (Endpoint.socketUrl ⟨"makerpi/", 3344, "k"⟩).toOption.map Url.text =
      some "ws://makerpi/socket" ∧
    (Endpoint.uploadUrl ⟨"makerpi/", 3344, "k"⟩ "p").toOption.map Url.text =
      some "http://makerpi/printer/model/p" ∧
    ¬ ∀ (e : Endpoint) (printer : String) (socket upload : Url), e.socketUrl = .ok socket →
      e.uploadUrl printer = .ok upload → e.Addressed socket ∧ e.Addressed upload := by
  refine ⟨by decide +kernel, by decide +kernel, fun hall => ?_⟩
  have hsocket : (Endpoint.socketUrl ⟨"makerpi/", 3344, "k"⟩).toOption.map Url.effectivePort =
      some 80 := by decide +kernel
  have hupload : (Endpoint.uploadUrl ⟨"makerpi/", 3344, "k"⟩ "p").toOption.map Url.effectivePort =
      some 80 := by decide +kernel
  obtain ⟨socket, hs, hport⟩ := exists_of_toOption hsocket
  obtain ⟨upload, hu, -⟩ := exists_of_toOption hupload
  have haddressed := (hall _ "p" socket upload hs hu).1.port
  rw [hport] at haddressed
  exact absurd haddressed (by decide)

end Endpoint

end PrintClient
