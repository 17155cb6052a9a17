import PrintClient.Proofs.Text.Utf8

/-!
# Reading a body with parts

A reader of `multipart/form-data` bodies, and what it makes of pieces that were put together. It
knows the boundary only: the parts stand between delimiters at the beginning of a line, the header
of a part ends at the first blank line, and a parameter in quotation marks ends at the next one.

* `Mark`, `cut?`: what stands in front of the first occurrence of a mark, and what stands behind it;
* `sections?`: what stands between the delimiters;
* `headLines?`, `header?`, `headersOf?`, `parameters?`: the header of a part;
* `Part`, `Part.ofSection?`, `readParts?`: the parts of a body.

Each comes with the lemma that it undoes the putting together.
-/

namespace PrintClient.Multipart

open Text (utf8 ofUtf8)

/-! ### Marks -/

/-- What is searched for: it is not empty. -/
structure Mark (α : Type) where
  first : α
  more : List α

section Cut

variable {α : Type} {mark : Mark α} {before rest xs : List α}

/-- The letters of a mark. -/
def Mark.letters (mark : Mark α) : List α := mark.first :: mark.more

/-- What ends in front of a letter has no part in common with what follows from that letter on. -/
theorem prefix_of_prefix_append {c : α} {m xs ys : List α} (hc : c ∉ m)
    (h : m <+: xs ++ c :: ys) : m <+: xs := by
  induction m generalizing xs with
  | nil => exact List.nil_prefix
  | cons a m ih =>
    rw [List.mem_cons, not_or] at hc
    cases xs with
    | nil => exact absurd (List.cons_prefix_cons.1 h).1.symm hc.1
    | cons x xs =>
      obtain ⟨rfl, hrest⟩ := List.cons_prefix_cons.1 h
      exact List.cons_prefix_cons.2 ⟨rfl, ih hc.2 hrest⟩

variable [DecidableEq α]

/-- What stands in front of the first occurrence of a mark, and what stands behind it. -/
def cut? (mark : Mark α) : List α → Option (List α × List α)
  | [] => none
  | x :: xs =>
    if mark.letters <+: x :: xs then some ([], xs.drop mark.more.length)
    else (cut? mark xs).map fun (before, rest) => (x :: before, rest)

theorem length_of_cut? (h : cut? mark xs = some (before, rest)) : rest.length < xs.length := by
  induction xs generalizing before with
  | nil => cases h
  | cons x xs ih =>
    unfold cut? at h
    split at h
    · cases h
      simp only [List.length_drop, List.length_cons]
      omega
    · obtain ⟨⟨before', rest'⟩, hcut, heq⟩ := Option.map_eq_some_iff.1 h
      cases heq
      exact Nat.lt_succ_of_lt (ih hcut)

/-- **A mark is found where it was put**, if it does not occur before: its first letter does not
come again in it, so it cannot begin in front of its place and end behind. -/
theorem cut?_append (mark : Mark α) (hmark : mark.first ∉ mark.more)
    (hbefore : ¬ mark.letters <:+: before) (rest : List α) :
    cut? mark (before ++ mark.letters ++ rest) = some (before, rest) := by
  induction before with
  | nil =>
    have hprefix : mark.letters <+: mark.first :: (mark.more ++ rest) :=
      List.prefix_append mark.letters rest
    show cut? mark (mark.first :: (mark.more ++ rest)) = some ([], rest)
    rw [cut?, if_pos hprefix, List.drop_left]
  | cons x before ih =>
    have hnot : ¬ mark.letters <+: x :: (before ++ mark.letters ++ rest) := by
      intro h
      obtain ⟨heq, hmore⟩ := List.cons_prefix_cons.1 h
      rw [List.append_assoc] at hmore
      have hmore : mark.more <+: before := prefix_of_prefix_append hmark hmore
      exact hbefore (List.cons_prefix_cons.2 ⟨heq, hmore⟩).isInfix
    have hrest : ¬ mark.letters <:+: before := fun h => hbefore (List.infix_cons h)
    rw [List.cons_append, List.cons_append, cut?, if_neg hnot, ih hrest]
    rfl

/-- A mark that occurs is found: what is in front of it does not contain it. -/
theorem exists_first_of_infix (mark : Mark α) (h : mark.letters <:+: xs) : ∃ before rest,
    xs = before ++ mark.letters ++ rest ∧ ¬ mark.letters <:+: before := by
  induction xs with
  | nil => cases List.infix_nil.1 h
  | cons x xs ih =>
    have hnil : ¬ mark.letters <:+: [] := fun hin => by cases List.infix_nil.1 hin
    by_cases hprefix : mark.letters <+: x :: xs
    · obtain ⟨rest, hrest⟩ := hprefix
      exact ⟨[], rest, hrest.symm, hnil⟩
    · obtain ⟨before, rest, rfl, hbefore⟩ :=
        ih ((List.infix_cons_iff.1 h).resolve_left hprefix)
      refine ⟨x :: before, rest, rfl, fun hin => ?_⟩
      rcases List.infix_cons_iff.1 hin with hin | hin
      · refine hprefix (hin.trans ?_)
        rw [List.append_assoc, ← List.cons_append]
        exact List.prefix_append _ _
      · exact hbefore hin

/-- A mark that is one letter is found where that letter comes first. -/
theorem cut?_letter {c : α} (h : c ∉ before) (rest : List α) :
    cut? ⟨c, []⟩ (before ++ c :: rest) = some (before, rest) := by
  have hbefore : ¬ (Mark.mk c []).letters <:+: before :=
    fun hin => h (hin.subset List.mem_cons_self)
  simpa [Mark.letters] using cut?_append ⟨c, []⟩ List.not_mem_nil hbefore rest

end Cut

/-! ### Sections -/

/-- The end of a line. -/
def lineBreak : Mark UInt8 := ⟨13, [10]⟩

theorem cut?_lineBreak (bytes : List UInt8) :
    cut? lineBreak (13 :: 10 :: bytes) = some ([], bytes) :=
  if_pos (List.prefix_append [13, 10] bytes)

/-- What ends a part: a line ends, and the next begins with two dashes and the boundary. -/
def delimiter (boundary : String) : Mark UInt8 := ⟨13, 10 :: utf8 ("--" ++ boundary)⟩

/-- The two dashes behind the last delimiter. -/
def closing : List UInt8 := [45, 45]

/-- What stands between one delimiter and the next, up to the last. -/
def sections? (mark : Mark UInt8) (bytes : List UInt8) : Option (List (List UInt8)) :=
  if closing <+: bytes then some []
  else
    match h : cut? mark bytes with
    | none => none
    | some (piece, rest) =>
      have := length_of_cut? h
      (sections? mark rest).map (piece :: ·)
termination_by bytes.length

theorem sections?_of_cut? {mark : Mark UInt8} {bytes piece rest : List UInt8}
    (hopen : ¬ closing <+: bytes) (hcut : cut? mark bytes = some (piece, rest)) :
    sections? mark bytes = (sections? mark rest).map (piece :: ·) := by
  rw [sections?, if_neg hopen]
  split
  · rename_i h
    rw [hcut] at h
    cases h
  · rename_i h
    rw [hcut] at h
    cases h
    rfl

/-- **Pieces with delimiters between them are recovered**, if each begins with the end of a line and
none contains the delimiter. -/
theorem sections?_flatMap {mark : Mark UInt8} {pieces : List (List UInt8)}
    (hmark : mark.first ∉ mark.more)
    (hpieces : ∀ piece ∈ pieces, piece.head? = some 13 ∧ ¬ mark.letters <:+: piece)
    (rest : List UInt8) :
    sections? mark (pieces.flatMap (· ++ mark.letters) ++ (closing ++ rest)) = some pieces := by
  induction pieces with
  | nil =>
    rw [sections?]
    exact if_pos (List.prefix_append _ _)
  | cons piece pieces ih =>
    obtain ⟨hhead, hclear⟩ := hpieces piece List.mem_cons_self
    have hrest := ih fun piece hmem => hpieces piece (List.mem_cons_of_mem _ hmem)
    obtain ⟨tail, rfl⟩ := List.head?_eq_some_iff.1 hhead
    rw [List.flatMap_cons, List.append_assoc]
    have hopen : ¬ closing <+: 13 :: tail ++ mark.letters ++
        (pieces.flatMap (· ++ mark.letters) ++ (closing ++ rest)) := by
      intro h
      exact absurd (List.cons_prefix_cons.1 h).1 (by decide)
    rw [sections?_of_cut? hopen (cut?_append mark hmark hclear _), hrest]
    rfl

/-! ### The header of a part -/

/-- The lines up to the first blank one, and what stands behind it. -/
def headLines? (bytes : List UInt8) : Option (List (List UInt8) × List UInt8) :=
  match h : cut? lineBreak bytes with
  | none => none
  | some ([], rest) => some ([], rest)
  | some (line, rest) =>
    have := length_of_cut? h
    (headLines? rest).map fun (lines, content) => (line :: lines, content)
termination_by bytes.length

theorem headLines?_nil (content : List UInt8) :
    headLines? (13 :: 10 :: content) = some ([], content) := by
  have hcut := cut?_lineBreak content
  rw [headLines?]
  split
  · rename_i h
    rw [hcut] at h
    cases h
  · rename_i h
    rw [hcut] at h
    cases h
    rfl
  · rename_i hline h
    rw [hcut] at h
    cases h
    exact absurd rfl hline

theorem headLines?_cons {line : List UInt8} (hne : line ≠ [])
    (hclear : ¬ lineBreak.letters <:+: line) (bytes : List UInt8) :
    headLines? (line ++ 13 :: 10 :: bytes) =
      (headLines? bytes).map fun (lines, content) => (line :: lines, content) := by
  have hcut : cut? lineBreak (line ++ 13 :: 10 :: bytes) = some (line, bytes) := by
    simpa [lineBreak, Mark.letters] using
      cut?_append lineBreak (by decide) hclear bytes
  rw [headLines?]
  split
  · rename_i h
    rw [hcut] at h
    cases h
  · rename_i h
    rw [hcut] at h
    cases h
    exact absurd rfl hne
  · rename_i h
    rw [hcut] at h
    cases h
    rfl

/-- Characters without one blank in front. -/
def skipBlank : List Char → List Char
  | ' ' :: cs => cs
  | cs => cs

/-- The name of a header, in small letters, and its value. -/
def header? (line : List UInt8) : Option (List Char × List Char) :=
  (cut? ⟨':', []⟩ (ofUtf8 line).toList).map fun (name, value) =>
    (name.map Char.toLower, skipBlank value)

theorem header?_utf8 {name : String} (hname : ':' ∉ name.toList) (value : String) :
    header? (utf8 (name ++ ": " ++ value)) = some (name.toList.map Char.toLower, value.toList) := by
  have hchars : (name ++ ": " ++ value).toList = name.toList ++ ':' :: ' ' :: value.toList := by
    simp
  rw [header?, Text.ofUtf8_utf8, hchars, cut?_letter hname]
  rfl

/-- The headers of the part that stands between two delimiters, and its bytes; blanks may follow the
first of them on its line. -/
def headersOf? (piece : List UInt8) : Option (List (List Char × List Char) × List UInt8) := do
  let (padding, rest) ← cut? lineBreak piece
  guard (padding.all fun b => b = 32 || b = 9)
  let (lines, content) ← headLines? rest
  (lines.mapM header?).map (·, content)

theorem headersOf?_eq (bytes : List UInt8) : headersOf? (13 :: 10 :: bytes) =
    (headLines? bytes).bind fun (lines, content) => (lines.mapM header?).map (·, content) := by
  -- nothing stands behind the boundary on its line
  rw [headersOf?, cut?_lineBreak]
  show (headLines? bytes).bind _ = _
  rfl

theorem headersOf?_nil (content : List UInt8) :
    headersOf? (13 :: 10 :: 13 :: 10 :: content) = some ([], content) := by
  rw [headersOf?_eq, headLines?_nil]
  rfl

theorem headersOf?_cons {line : List UInt8} (hne : line ≠ [])
    (hclear : ¬ lineBreak.letters <:+: line) (bytes : List UInt8) :
    headersOf? (13 :: 10 :: (line ++ 13 :: 10 :: bytes)) =
      (header? line).bind fun header =>
        (headersOf? (13 :: 10 :: bytes)).map fun (headers, content) =>
          (header :: headers, content) := by
  rw [headersOf?_eq, headersOf?_eq, headLines?_cons hne hclear]
  cases headLines? bytes with
  | none => cases header? line <;> rfl
  | some rest =>
    obtain ⟨lines, content⟩ := rest
    simp only [Option.map_some, Option.bind_some, List.mapM_cons]
    cases header? line with
    | none => rfl
    | some header => cases lines.mapM header? <;> rfl

/-- Parameters with their values, each of which ends at the next quotation mark. -/
def parameters? (cs : List Char) : Option (List (List Char × List Char)) :=
  match cs with
  | [] => some []
  | ';' :: cs =>
    match h : cut? ⟨'=', ['\x22']⟩ cs with
    | none => none
    | some (key, rest) =>
      match h' : cut? ⟨'\x22', []⟩ rest with
      | none => none
      | some (value, rest') =>
        have := length_of_cut? h
        have := length_of_cut? h'
        (parameters? rest').map (((skipBlank key).map Char.toLower, value) :: ·)
  | _ => none
termination_by cs.length

theorem parameters?_nil : parameters? [] = some [] := by
  rw [parameters?]

theorem cut?_key {key : List Char} (hkey : '=' ∉ key) (cs : List Char) :
    cut? ⟨'=', ['\x22']⟩ (' ' :: (key ++ '=' :: '\x22' :: cs)) = some (' ' :: key, cs) := by
  have hclear : ¬ (Mark.mk '=' ['\x22']).letters <:+: ' ' :: key := by
    intro h
    rcases List.mem_cons.1 (h.subset List.mem_cons_self) with h | h
    · exact absurd h (by decide)
    · exact hkey h
  simpa [Mark.letters] using cut?_append ⟨'=', ['\x22']⟩ (by decide) hclear cs

theorem parameters?_cons {key value : List Char} (hkey : '=' ∉ key) (hvalue : '\x22' ∉ value)
    (cs : List Char) :
    parameters? (';' :: ' ' :: (key ++ '=' :: '\x22' :: (value ++ '\x22' :: cs))) =
      (parameters? cs).map ((key.map Char.toLower, value) :: ·) := by
  have hcut := cut?_key hkey (value ++ '\x22' :: cs)
  have hcut' := cut?_letter hvalue cs
  rw [parameters?]
  split
  · rename_i h
    rw [hcut] at h
    cases h
  · rename_i h
    rw [hcut] at h
    cases h
    split
    · rename_i h
      rw [hcut'] at h
      cases h
    · rename_i h
      rw [hcut'] at h
      cases h
      rfl

/-! ### Parts -/

/-- A part of a body: the name of its field, the name and the type of its file, and its bytes. -/
structure Part where
  name : String
  fileName : Option String
  contentType : Option String
  content : List UInt8
  deriving DecidableEq

namespace Part

/-- The parameters of a disposition, if it is that of a part of a form. -/
def disposition? (value : List Char) : Option (List (List Char × List Char)) :=
  if "form-data".toList <+: value then parameters? (value.drop "form-data".length) else none

/-- The part with these headers. -/
def ofHeaders? (headers : List (List Char × List Char)) (content : List UInt8) : Option Part := do
  let disposition ← headers.lookup "content-disposition".toList
  let parameters ← disposition? disposition
  let name ← parameters.lookup "name".toList
  return {
    name := String.ofList name
    fileName := (parameters.lookup "filename".toList).map String.ofList
    contentType := (headers.lookup "content-type".toList).map String.ofList
    content }

/-- The part that stands between two delimiters; blanks may follow the first of them on its line. -/
def ofSection? (piece : List UInt8) : Option Part := do
  let (padding, rest) ← cut? lineBreak piece
  guard (padding.all fun b => b = 32 || b = 9)
  let (lines, content) ← headLines? rest
  let headers ← lines.mapM header?
  ofHeaders? headers content

theorem ofSection?_eq (piece : List UInt8) : ofSection? piece =
    (headersOf? piece).bind fun (headers, content) => ofHeaders? headers content := by
  unfold ofSection? headersOf?
  cases cut? lineBreak piece with
  | none => rfl
  | some found =>
    show Option.bind (guard _) _ = Option.bind (Option.bind (guard _) _) _
    rw [Option.bind_assoc]
    refine congrArg (Option.bind _) (funext fun _ => ?_)
    cases headLines? found.2 with
    | none => rfl
    | some head =>
      show (head.1.mapM header?).bind _ = ((head.1.mapM header?).map _).bind _
      rw [Option.bind_map]
      rfl

end Part

/-- The parts of a body with this boundary; what stands in front of the first delimiter is none. -/
def readParts? (boundary : String) (body : List UInt8) : Option (List Part) := do
  let (_, rest) ← cut? (delimiter boundary) (lineBreak.letters ++ body)
  let pieces ← sections? (delimiter boundary) rest
  pieces.mapM Part.ofSection?

end PrintClient.Multipart
