import PrintClient.Endpoint
import PrintClient.Proofs.Url.Percent

/-!
# The path of an upload

A model is sent to a path of three segments, the last of which stands for the slug of the printer.
A segment cannot stand for every slug: one point or two is a reference within the path and is
skipped, and tabs and ends of lines do not count in a URL. All other slugs are kept as they are,
whatever characters they have, and no slug changes anything else in the URL.

* `IsSegment`: the slugs that a segment stands for;
* `NamesPrinter`, `namesPrinter_iff`: when the path of an upload names the printer;
* `Splits`, `splits_of_upload`: the text of the path shows its segments;
* `upload_names_printer_iff`: what holds of the URLs of all uploads.
-/

namespace PrintClient

namespace Url

/-! ### Texts of paths -/

section Parts

variable {sep : Char} {cs : List Char}

theorem parts_sep (sep : Char) (cs : List Char) : parts sep (sep :: cs) = [] :: parts sep cs := by
  rw [parts, List.foldr_cons, if_pos rfl]
  rfl

theorem parts_append (h : sep ∉ cs) {p : List Char} {ps : List (List Char)} {rest : List Char}
    (hrest : parts sep rest = p :: ps) : parts sep (cs ++ rest) = (cs ++ p) :: ps := by
  induction cs with
  | nil => exact hrest
  | cons c cs ih =>
    rw [List.mem_cons, not_or] at h
    have hparts := ih h.2
    rw [parts] at hparts
    rw [List.cons_append, parts, List.foldr_cons, if_neg (Ne.symm h.1), hparts]
    rfl

/-- Segments without slashes are the parts of the text that has a slash before each of them. -/
theorem parts_slashed (segments : List String) (h : ∀ s ∈ segments, '/' ∉ s.toList) :
    parts '/' ((segments.map ("/" ++ ·)).flatMap String.toList) =
      [] :: segments.map String.toList := by
  induction segments with
  | nil => rfl
  | cons s segments ih =>
    have hrest := ih fun t ht => h t (List.mem_cons_of_mem s ht)
    have hsegment : parts '/' (s.toList ++ (segments.map ("/" ++ ·)).flatMap String.toList) =
        s.toList :: segments.map String.toList := by
      rw [parts_append (h s List.mem_cons_self) hrest, List.append_nil]
    have hslash : ("/" ++ s).toList = '/' :: s.toList := by
      rw [String.toList_append]
      rfl
    rw [List.map_cons, List.flatMap_cons, hslash, List.cons_append, parts_sep, hsegment]
    rfl

end Parts

/-- The text of the path shows its segments, and neither a query nor a fragment begins within
it. -/
structure Splits (u : Url) : Prop where
  segments : parts '/' u.pathText.toList = [] :: u.path.map String.toList
  query : '?' ∉ u.pathText.toList
  fragment : '#' ∉ u.pathText.toList

/-- The characters that end a segment. -/
def segmentEnds : List Char := ['/', '?', '#']

theorem splits_of_segments {u : Url} (hne : u.path ≠ [])
    (h : ∀ s ∈ u.path, ∀ c ∈ segmentEnds, c ∉ s.toList) : u.Splits := by
  have htext : u.pathText.toList = (u.path.map ("/" ++ ·)).flatMap String.toList := by
    rw [pathText, if_neg hne, String.toList_join]
  have hnone (c : Char) (hc : c ∈ segmentEnds) (hslash : c ∉ "/".toList) :
      c ∉ u.pathText.toList := by
    rw [htext]
    intro hmem
    simp only [List.mem_flatMap, List.mem_map] at hmem
    obtain ⟨_, ⟨s, hs, rfl⟩, hmem⟩ := hmem
    rw [String.toList_append, List.mem_append] at hmem
    exact hmem.elim hslash (h s hs c hc)
  refine ⟨?_, hnone '?' (by decide) (by decide), hnone '#' (by decide) (by decide)⟩
  rw [htext]
  exact parts_slashed u.path fun s hs => h s hs '/' (by decide)

/-! ### Segments for slugs -/

/-- The slugs that a segment stands for: other than one point or two, and without characters that
do not count in a URL. -/
structure IsSegment (slug : String) : Prop where
  ne_point : slug ≠ "."
  ne_points : slug ≠ ".."
  kept : ∀ c ∈ slug.toList, isDropped c = false

/-- The segment that is written for a text. -/
def segmentText (cs : List Char) : String :=
  String.ofList (Percent.encodeChars Percent.segmentSet cs)

theorem decode_segmentText (cs : List Char) :
    Percent.decode (segmentText cs).toList = cs.flatMap String.utf8EncodeChar := by
  rw [segmentText, String.toList_ofList]
  exact Percent.decode_encodeChars (by decide) cs

theorem not_mem_segmentText {c : Char} (h : c ∈ segmentEnds) (cs : List Char) :
    c ∉ (segmentText cs).toList := by
  have hall : ∀ c ∈ segmentEnds, c ∈ Percent.segmentSet ∧ c ≠ '%' ∧
      ∀ n < 16, c ≠ Percent.hexDigit n := forall_of_all (by decide)
  obtain ⟨hset, hpercent, hdigit⟩ := hall c h
  rw [segmentText, String.toList_ofList]
  exact Percent.not_mem_encodeChars hset hpercent hdigit cs

section Push

variable {slug : String} {path : List String}

theorem pushSegment_of_isSegment (h : IsSegment slug) (path : List String) :
    pushSegment path slug = path ++ [segmentText slug.toList] := by
  have hkept : slug.toList.filter (!isDropped ·) = slug.toList :=
    List.filter_eq_self.2 fun c hc => by rw [h.kept c hc]; rfl
  have hpoint : slug.toList ≠ ['.'] := fun hp => h.ne_point (String.toList_injective hp)
  have hpoints : slug.toList ≠ ['.', '.'] := fun hp => h.ne_points (String.toList_injective hp)
  rw [pushSegment, if_neg (not_or.2 ⟨h.ne_point, h.ne_points⟩)]
  dsimp only
  rw [hkept, if_neg hpoint, if_neg hpoints, segmentText]

/-- What pushing a segment can do to a path: leave it as it is, refer to this or to the outer
level, or append the text without the characters that do not count. -/
theorem pushSegment_cases (path : List String) (slug : String) :
    ((slug = "." ∨ slug = "..") ∧ pushSegment path slug = path) ∨
    (slug.toList.filter (!isDropped ·) = ['.'] ∧ pushSegment path slug = path ++ [""]) ∨
    pushSegment path slug = path.dropLast ++ [""] ∨
    pushSegment path slug = path ++ [segmentText (slug.toList.filter (!isDropped ·))] := by
  unfold pushSegment
  dsimp only
  by_cases hskip : slug = "." ∨ slug = ".."
  · rw [if_pos hskip]
    exact .inl ⟨hskip, rfl⟩
  · rw [if_neg hskip]
    by_cases hpoint : slug.toList.filter (!isDropped ·) = ['.']
    · rw [if_pos hpoint]
      exact .inr (.inl ⟨hpoint, rfl⟩)
    · rw [if_neg hpoint]
      by_cases hpoints : slug.toList.filter (!isDropped ·) = ['.', '.']
      · rw [if_pos hpoints]
        exact .inr (.inr (.inl rfl))
      · rw [if_neg hpoints]
        exact .inr (.inr (.inr rfl))

/-- The segments of a path with one more are those of the path, or they are written as such. -/
theorem mem_pushSegment {s : String} (h : s ∈ pushSegment path slug) :
    s ∈ path ∨ s = "" ∨ ∃ cs, s = segmentText cs := by
  rcases pushSegment_cases path slug with ⟨-, heq⟩ | ⟨-, heq⟩ | heq | heq <;> rw [heq] at h
  · exact .inl h
  · exact (List.mem_append.1 h).imp id fun h => .inl (List.mem_singleton.1 h)
  · exact (List.mem_append.1 h).imp (List.dropLast_subset _ ·)
      fun h => .inl (List.mem_singleton.1 h)
  · exact (List.mem_append.1 h).imp id fun h => .inr ⟨_, List.mem_singleton.1 h⟩

end Push

/-! ### The path of an upload -/

/-- The path in front of the slug. -/
def modelPath : List String := ["printer", "model"]

/-- The path has three segments, and the last one stands for the slug of the printer. -/
def NamesPrinter (u : Url) (printer : String) : Prop :=
  ∃ segment, u.path = modelPath ++ [segment] ∧
    Percent.decode segment.toList = Text.utf8 printer

section Upload

variable {u : Url} {printer : String}

theorem namesPrinter_of_isSegment (hpath : u.path = pushSegment modelPath printer)
    (h : IsSegment printer) : u.NamesPrinter printer :=
  ⟨segmentText printer.toList, hpath.trans (pushSegment_of_isSegment h modelPath),
    decode_segmentText printer.toList⟩

/-- A slug that is skipped leaves no segment, and one that loses characters leaves the segment of
another slug. -/
theorem isSegment_of_namesPrinter (hpath : u.path = pushSegment modelPath printer)
    (h : u.NamesPrinter printer) : IsSegment printer := by
  obtain ⟨segment, hthree, hdecode⟩ := h
  rw [hpath] at hthree
  -- the bytes of the slug determine it
  have hkept (cs : List Char) (hcs : cs.flatMap String.utf8EncodeChar = Text.utf8 printer) :
      cs = printer.toList := by
    have hbytes : Text.utf8 (String.ofList cs) = Text.utf8 printer := by
      rw [Text.utf8, String.toList_ofList, hcs]
    rw [← Text.utf8_injective hbytes, String.toList_ofList]
  rcases pushSegment_cases modelPath printer with ⟨-, heq⟩ | ⟨hpoint, heq⟩ | heq | heq <;>
    rw [heq] at hthree
  · exact absurd (congrArg List.length hthree) (by simp [modelPath])
  · obtain rfl : "" = segment := List.singleton_inj.1 (List.append_cancel_left hthree)
    rw [← hkept [] hdecode] at hpoint
    exact absurd hpoint (by decide)
  · exact absurd (congrArg List.length hthree) (by simp [modelPath])
  · obtain rfl := List.singleton_inj.1 (List.append_cancel_left hthree)
    rw [decode_segmentText] at hdecode
    have hfilter := hkept _ hdecode
    refine ⟨?_, ?_, ?_⟩
    · rintro rfl
      exact absurd (congrArg List.length heq) (by decide)
    · rintro rfl
      exact absurd (congrArg List.length heq) (by decide)
    · intro c hc
      simpa using List.filter_eq_self.1 hfilter c hc

/-- **The path of an upload names its printer** exactly if a segment can stand for the slug. -/
theorem namesPrinter_iff (hpath : u.path = pushSegment modelPath printer) :
    u.NamesPrinter printer ↔ IsSegment printer :=
  ⟨isSegment_of_namesPrinter hpath, namesPrinter_of_isSegment hpath⟩

/-- Whatever the slug, the text of the path shows its segments. -/
theorem splits_of_upload (hpath : u.path = pushSegment modelPath printer) : u.Splits := by
  apply splits_of_segments
  · rw [hpath]
    rcases pushSegment_cases modelPath printer with ⟨-, heq⟩ | ⟨-, heq⟩ | heq | heq <;>
      rw [heq] <;> exact List.cons_ne_nil _ _
  · intro s hs c hc
    rw [hpath] at hs
    rcases mem_pushSegment hs with hs | rfl | ⟨cs, rfl⟩
    · revert c
      simp only [modelPath, List.mem_cons, List.not_mem_nil, or_false] at hs
      rcases hs with rfl | rfl <;> exact forall_of_all (by decide)
    · exact List.not_mem_nil
    · exact not_mem_segmentText hc cs

end Upload

/-- URLs that differ in their paths only differ in the texts of their paths. -/
theorem pathText_of_text {base : Url} {path path' : List String}
    (h : text { base with path := path } = text { base with path := path' }) :
    pathText { base with path := path } = pathText { base with path := path' } := by
  simpa only [text, userText, String.append_assoc, String.append_right_inj,
    String.append_left_inj, ← String.append_assoc] using h

theorem segmentText_injective : Function.Injective segmentText := by
  intro cs ds h
  have hbytes := decode_segmentText cs
  rw [h, decode_segmentText] at hbytes
  have hchars : Text.utf8 (String.ofList ds) = Text.utf8 (String.ofList cs) := by
    simpa only [Text.utf8, String.toList_ofList] using hbytes
  exact (String.ofList_injective (Text.utf8_injective hchars)).symm

end Url

namespace Endpoint

open Url

variable {e : Endpoint} {base : Url}

theorem uploadUrl_eq (h : e.baseUrl .http = .ok base) (printer : String) :
    e.uploadUrl printer = .ok { base with path := pushSegment modelPath printer } := by
  rw [uploadUrl, h]
  rfl

/-- Slugs that segments stand for give different URLs. -/
theorem eq_of_text_uploadUrl {p q : String} (hp : IsSegment p) (hq : IsSegment q)
    (h : text { base with path := pushSegment modelPath p } =
      text { base with path := pushSegment modelPath q }) : p = q := by
  have hpath := pathText_of_text h
  rw [pushSegment_of_isSegment hp, pushSegment_of_isSegment hq] at hpath
  have hsegment : segmentText p.toList = segmentText q.toList := by
    simpa [pathText, modelPath, String.join] using hpath
  exact String.toList_injective (segmentText_injective hsegment)

/-- **An upload goes to the printer that was named exactly if a segment can stand for its slug.**
There is a URL for every slug, which differs from the server's in its path only; its text shows the
segments of the path; and different slugs that segments can stand for give different URLs. -/
theorem upload_names_printer_iff (e : Endpoint) (base : Url) (h : e.baseUrl .http = .ok base) :
    (∀ printer, ∃ u, e.uploadUrl printer = .ok u ∧ u = { base with path := u.path } ∧ u.Splits ∧
      (u.NamesPrinter printer ↔ IsSegment printer)) ∧
    ∀ p q u v, IsSegment p → IsSegment q → e.uploadUrl p = .ok u → e.uploadUrl q = .ok v →
      u.text = v.text → p = q := by
  constructor
  · intro printer
    exact ⟨_, uploadUrl_eq h printer, rfl, splits_of_upload rfl, namesPrinter_iff rfl⟩
  · intro p q u v hp hq hu hv htext
    rw [uploadUrl_eq h] at hu hv
    cases hu
    cases hv
    exact eq_of_text_uploadUrl hp hq htext

/-- A server in a local network. -/
def sample : Endpoint := ⟨"makerpi", defaultPort, "k"⟩

theorem exists_baseUrl_sample : ∃ base, sample.baseUrl .http = .ok base := by
  have hok : (sample.baseUrl .http).isOk = true := by decide +kernel
  cases hbase : sample.baseUrl .http with
  | ok base => exact ⟨base, rfl⟩
  | error fault =>
    rw [hbase] at hok
    cases hok

/-- A slug with a blank and a slash is named by the path. -/
theorem upload_names_printer_of_slash :
    ∃ base u, sample.baseUrl .http = .ok base ∧ sample.uploadUrl "mk 3/4" = .ok u ∧
      u = { base with path := u.path } ∧ u.Splits ∧ u.NamesPrinter "mk 3/4" := by
  obtain ⟨base, hbase⟩ := exists_baseUrl_sample
  have hsegment : IsSegment "mk 3/4" :=
    ⟨by decide, by decide, forall_of_all (by decide)⟩
  obtain ⟨u, hu, hrest, hsplits, hnames⟩ := (upload_names_printer_iff sample base hbase).1 "mk 3/4"
  exact ⟨base, u, hbase, hu, hrest, hsplits, hnames.2 hsegment⟩

/-- A tab is left out of the URL, so that the model goes to another printer, and a slug of two
points leaves no segment at all. -/
theorem slugs_left_out :
    (sample.uploadUrl "a\tb").toOption.map Url.text = some "http://makerpi:3344/printer/model/ab" ∧
    (sample.uploadUrl "..").toOption.map Url.text = some "http://makerpi:3344/printer/model" ∧
    ¬ ∀ (e : Endpoint) (base : Url), e.baseUrl .http = .ok base →
      ∀ printer, ∃ u, e.uploadUrl printer = .ok u ∧ u.NamesPrinter printer := by
  refine ⟨by decide +kernel, by decide +kernel, fun hall => ?_⟩
  obtain ⟨base, hbase⟩ := exists_baseUrl_sample
  obtain ⟨u, hu, hnames⟩ := hall sample base hbase "a\tb"
  rw [uploadUrl_eq hbase] at hu
  cases hu
  have htab := ((namesPrinter_iff rfl).1 hnames).kept '\t' (by decide)
  exact absurd htab (by decide)

end Endpoint

end PrintClient
