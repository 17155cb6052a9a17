import PrintClient.Multipart.Encoder
import PrintClient.Proofs.Text.Utf8

/-!
# The body of a form, pull by pull

Whatever blocks the reads of a file bring, the pulls bring the parts of the fields, the header of
the file, these blocks, and the end of the body, and no pull goes through more than four stages.

* `Field.written`, `FilePart.written`, `Form.ending`: the pieces of a body, letter by letter;
* `Form.chunks`, `Form.reference`: what the pulls have to bring, and the body that it makes;
* `blocksOf`, `faultOf?`, `FailsAfter`, `EndsAfter`: what the reads of a file bring;
* `Encoder.Returns`, `returns_pull`: the turns that one pull takes;
* `Encoder.leading`, `Encoder.last`, `advances_pull`: what is still to come, and what one pull takes
  of it, also if a read of the file fails;
* `Encoder.after`, `Encoder.chunks_eq`: all pulls;
* `BringsBody`, `body_in_chunks`: what holds of the encoder of every form.
-/

namespace PrintClient.Multipart

open Text (utf8)

/-! ### The body as it is written -/

/-- The part of a field. -/
def Field.written (boundary : String) (field : Field) : List UInt8 :=
  utf8 ("--" ++ boundary ++ "\r\nContent-Disposition: form-data; name=\x22" ++ field.name ++
    "\x22\r\n\r\n") ++ field.value ++ utf8 "\r\n"

/-- The part of a file, up to its bytes. -/
def FilePart.written (boundary : String) (file : FilePart) : List UInt8 :=
  utf8 ("--" ++ boundary ++
    "\r\nContent-Disposition: form-data; name=\x22filename\x22; filename=\x22" ++ file.fileName ++
    "\x22\r\n") ++
  (match file.contentType with
    | some type => utf8 ("Content-Type: " ++ type ++ "\r\n")
    | none => []) ++
  utf8 "\r\n"

namespace Form

/-- The end of a body. -/
def ending (form : Form) : List UInt8 :=
  match form.file with
  | some _ => utf8 ("\r\n--" ++ form.boundary ++ "--\r\n")
  | none => utf8 ("--" ++ form.boundary ++ "--\r\n")

/-- The chunks of the part of a file whose reads bring these blocks. -/
def fileChunks (form : Form) (blocks : List (List UInt8)) : List Chunk :=
  match form.file with
  | some file => ⟨file.written form.boundary, true⟩ :: blocks.map (⟨·, true⟩)
  | none => []

/-- The chunks of a body in front of its end. -/
def leadingChunks (form : Form) (blocks : List (List UInt8)) : List Chunk :=
  form.fields.map (fun field => ⟨field.written form.boundary, true⟩) ++ form.fileChunks blocks

/-- What follows them: the end of the body, unless a read of the file fails. -/
def lastChunk (form : Form) (fault : Option FileFault) : Except FileFault Chunk :=
  match form.file, fault with
  | some _, some fault => .error fault
  | _, _ => .ok ⟨form.ending, false⟩

/-- What a form has open: its file, or nothing. -/
def openedAs (form : Form) (file : OpenFile) : OpenFile :=
  if form.file.isSome then file else ⟨0, []⟩

/-- The chunks of a body. -/
def chunks (form : Form) (blocks : List (List UInt8)) : List Chunk :=
  form.leadingChunks blocks ++ [⟨form.ending, false⟩]

/-- The body of a form whose file has these bytes. -/
def reference (form : Form) (content : List UInt8) : List UInt8 :=
  form.fields.flatMap (Field.written form.boundary) ++
    (match form.file with
      | some file => file.written form.boundary ++ content
      | none => []) ++
    form.ending

end Form

theorem Field.part_eq (boundary : String) (field : Field) :
    field.part boundary = field.written boundary := by
  have hline : "\r\nContent-Disposition: form-data; name=\x22" =
      lineEnd ++ "Content-Disposition: form-data; name=\x22" := by decide
  have hblank : "\x22\r\n\r\n" = "\x22" ++ lineEnd ++ lineEnd := by decide
  rw [Field.part, Field.written, Field.header, openingLine, hline, hblank]
  simp only [String.append_assoc]
  rfl

theorem FilePart.header_eq (boundary : String) (file : FilePart) :
    file.header boundary = file.written boundary := by
  have hline : "\r\nContent-Disposition: form-data; name=\x22filename\x22; filename=\x22" =
      lineEnd ++ "Content-Disposition: form-data; name=\x22filename\x22; filename=\x22" := by decide
  have hend : "\x22\r\n" = "\x22" ++ lineEnd := by decide
  rw [FilePart.header, FilePart.written, FilePart.typeLine, openingLine, hline, hend]
  have hempty : utf8 "" = [] := rfl
  cases file.contentType with
  | none =>
    simp only [Text.utf8_append, hempty, List.append_assoc, List.nil_append]
    rfl
  | some type =>
    simp only [Text.utf8_append, List.append_assoc]
    rfl

theorem Form.trailer_eq (form : Form) : form.trailer = form.ending := by
  have hline : "\r\n--" = lineEnd ++ "--" := by decide
  have hend : "--\r\n" = "--" ++ lineEnd := by decide
  rw [Form.trailer, Form.ending, closingLine, hline, hend]
  cases form.file with
  | none => simp only [String.append_assoc]
  | some file => simp only [String.append_assoc]

namespace Form

variable (form : Form) (blocks : List (List UInt8))

theorem length_leadingChunks : (form.leadingChunks blocks).length =
    form.fields.length + if form.file.isSome then 1 + blocks.length else 0 := by
  cases hfile : form.file with
  | none => simp [leadingChunks, fileChunks, hfile]
  | some file => simp [leadingChunks, fileChunks, hfile]; omega

theorem more_of_mem_fileChunks {chunk : Chunk} (h : chunk ∈ form.fileChunks blocks) :
    chunk.more = true := by
  unfold fileChunks at h
  split at h
  · rcases List.mem_cons.1 h with rfl | h
    · rfl
    · obtain ⟨block, -, rfl⟩ := List.mem_map.1 h
      rfl
  · cases h

theorem more_of_mem_leadingChunks {chunk : Chunk} (h : chunk ∈ form.leadingChunks blocks) :
    chunk.more = true := by
  rcases List.mem_append.1 h with h | h
  · obtain ⟨field, -, rfl⟩ := List.mem_map.1 h
    rfl
  · exact form.more_of_mem_fileChunks blocks h

end Form

/-! ### Reads -/

/-- The blocks that reads bring up to the end of the file or to the first fault. -/
def blocksOf : List Read → List (List UInt8)
  | .ok (b :: block) :: rest => (b :: block) :: blocksOf rest
  | _ => []

/-- The first fault of reads, unless the end of the file comes before it. -/
def faultOf? : List Read → Option FileFault
  | .ok (_ :: _) :: rest => faultOf? rest
  | .error fault :: _ => some fault
  | _ => none

theorem length_blocksOf_le (reads : List Read) : (blocksOf reads).length ≤ reads.length := by
  fun_induction blocksOf reads with
  | case1 b block rest ih => exact Nat.succ_le_succ ih
  | case2 => exact Nat.zero_le _

section Reads

variable {blocks : List (List UInt8)}

theorem blocksOf_append (hfull : ∀ block ∈ blocks, block ≠ []) (rest : List Read) :
    blocksOf (blocks.map .ok ++ rest) = blocks ++ blocksOf rest := by
  induction blocks with
  | nil => rfl
  | cons block blocks ih =>
    obtain ⟨b, block, rfl⟩ := List.exists_cons_of_ne_nil (hfull block List.mem_cons_self)
    rw [List.map_cons, List.cons_append, blocksOf,
      ih fun block hmem => hfull block (List.mem_cons_of_mem _ hmem), List.cons_append]

theorem faultOf?_append (hfull : ∀ block ∈ blocks, block ≠ []) (rest : List Read) :
    faultOf? (blocks.map .ok ++ rest) = faultOf? rest := by
  induction blocks with
  | nil => rfl
  | cons block blocks ih =>
    obtain ⟨b, block, rfl⟩ := List.exists_cons_of_ne_nil (hfull block List.mem_cons_self)
    rw [List.map_cons, List.cons_append, faultOf?,
      ih fun block hmem => hfull block (List.mem_cons_of_mem _ hmem)]

/-- Reads that bring these blocks and then fail. -/
def FailsAfter (reads : List Read) (blocks : List (List UInt8)) (fault : FileFault) : Prop :=
  (∀ block ∈ blocks, block ≠ []) ∧ ∃ later, reads = blocks.map .ok ++ .error fault :: later

/-- Reads that bring these blocks and then the end of the file. -/
def EndsAfter (reads : List Read) (blocks : List (List UInt8)) : Prop :=
  (∀ block ∈ blocks, block ≠ []) ∧
    (reads = blocks.map .ok ∨ ∃ later, reads = blocks.map .ok ++ .ok [] :: later)

theorem FailsAfter.eq {reads : List Read} {fault : FileFault} (h : FailsAfter reads blocks fault) :
    blocksOf reads = blocks ∧ faultOf? reads = some fault := by
  obtain ⟨hfull, later, rfl⟩ := h
  rw [blocksOf_append hfull, faultOf?_append hfull]
  exact ⟨List.append_nil blocks, rfl⟩

theorem EndsAfter.eq {reads : List Read} (h : EndsAfter reads blocks) :
    blocksOf reads = blocks ∧ faultOf? reads = none := by
  obtain ⟨hfull, rfl | ⟨later, rfl⟩⟩ := h
  · rw [← List.append_nil (List.map _ _), blocksOf_append hfull, faultOf?_append hfull]
    exact ⟨List.append_nil blocks, rfl⟩
  · rw [blocksOf_append hfull, faultOf?_append hfull]
    exact ⟨List.append_nil blocks, rfl⟩

/-- A form whose file is read up to its end. -/
theorem chunks_of_endsAfter {form : Form} {reads : List Read}
    (h : form.file.isSome → EndsAfter reads blocks) :
    form.leadingChunks (blocksOf reads) = form.leadingChunks blocks ∧
      form.lastChunk (faultOf? reads) = .ok ⟨form.ending, false⟩ := by
  cases hfile : form.file with
  | none => simp [Form.leadingChunks, Form.fileChunks, Form.lastChunk, hfile]
  | some file =>
    obtain ⟨hblocks, hfault⟩ := (h (by rw [hfile]; rfl)).eq
    rw [hblocks, hfault]
    exact ⟨rfl, by simp [Form.lastChunk]⟩

end Reads

namespace Encoder

variable {e next : Encoder} {result : Except FileFault Chunk}

/-! ### One pull -/

/-- So many turns bring something: all but the last pass on to a later stage. -/
inductive Returns : Nat → Encoder → Except FileFault Chunk → Encoder → Prop
  | brings {e next : Encoder} {result : Except FileFault Chunk}
      (turn : e.turn = (some result, next)) : Returns 1 e result next
  | passes {n : Nat} {e middle next : Encoder} {result : Except FileFault Chunk}
      (turn : e.turn = (none, middle)) (rest : Returns n middle result next) :
      Returns (n + 1) e result next

theorem pull_of_brings (h : e.turn = (some result, next)) : e.pull = (result, next) := by
  unfold pull
  split
  · rename_i h'
    rw [h] at h'
    cases h'
    rfl
  · rename_i h'
    rw [h] at h'
    cases h'

theorem pull_of_passes (h : e.turn = (none, next)) : e.pull = next.pull := by
  rw [pull]
  split
  · rename_i h'
    rw [h] at h'
    cases h'
  · rename_i h'
    rw [h] at h'
    cases h'
    rfl

/-- **A pull takes as many turns as there are stages left, or fewer.** -/
theorem returns_pull (e : Encoder) : ∃ n ≤ e.stage.rank + 1, Returns n e e.pull.1 e.pull.2 := by
  induction e using pull.induct with
  | case1 e result next h =>
    rw [pull_of_brings h]
    exact ⟨1, by omega, .brings h⟩
  | case2 e next h hrank ih =>
    obtain ⟨n, hn, hreturns⟩ := ih
    rw [pull_of_passes h]
    exact ⟨n + 1, by omega, .passes h hreturns⟩

/-! ### What is still to come -/

/-- The chunks in front of the last. -/
def leading (e : Encoder) : List Chunk :=
  match e.stage with
  | .fields left => { e.form with fields := left }.leadingChunks (blocksOf e.reads)
  | .fileHeader => e.form.fileChunks (blocksOf e.reads)
  | .fileBody => if e.form.file.isSome then (blocksOf e.reads).map (⟨·, true⟩) else []
  | .trailer | .finished => []

/-- What follows them: the end of the body, or the fault of a read. -/
def last (e : Encoder) : Except FileFault Chunk :=
  match e.stage with
  | .trailer => .ok ⟨e.form.ending, false⟩
  | .finished => .ok ⟨[], false⟩
  | _ => e.form.lastChunk (faultOf? e.reads)

/-- What a pull takes of what is to come: the next chunk, or what follows the chunks. -/
inductive Advances (e : Encoder) : Except FileFault Chunk → Encoder → Prop
  | chunk {chunk : Chunk} {next : Encoder} (leading : e.leading = chunk :: next.leading)
      (last : next.last = e.last) : Advances e (.ok chunk) next
  | last {next : Encoder} (leading : e.leading = [])
      (finished : ∀ chunk, e.last = .ok chunk → next.leading = [] ∧ next.last = .ok ⟨[], false⟩) :
      Advances e e.last next

/-- A stage with nothing to bring leaves all that is to come to the next one. -/
theorem passes (hturn : e.turn = (none, next)) :
    next.leading = e.leading ∧ next.last = e.last := by
  cases hs : e.stage with
  | fields left =>
    cases left with
    | cons => simp [turn, hs] at hturn
    | nil =>
      simp only [turn, hs] at hturn
      cases hturn
      simp [leading, last, hs, Form.leadingChunks, Form.fileChunks]
  | fileHeader =>
    simp only [turn, hs] at hturn
    split at hturn
    · cases hturn
    · rename_i hfile
      cases hturn
      simp [leading, last, hs, Form.fileChunks, hfile]
  | fileBody =>
    simp only [turn, hs] at hturn
    split at hturn
    · cases hturn
    · cases hturn
    · rename_i hfault hblock
      cases hturn
      cases hfile : e.form.file with
      | none => simp [leading, last, hs, hfile, Form.lastChunk]
      | some file =>
        -- the file is at its end: neither a block nor a fault comes next
        have hnone : blocksOf e.reads = [] ∧ faultOf? e.reads = none := by
          cases hreads : e.reads with
          | nil => exact ⟨rfl, rfl⟩
          | cons read rest =>
            rcases read with fault | ⟨_ | ⟨b, block⟩⟩
            · exact (hfault file fault rest hfile hreads).elim
            · exact ⟨rfl, rfl⟩
            · exact (hblock file b block rest hfile hreads).elim
        simp [leading, last, hs, hnone, Form.lastChunk]
  | trailer => simp [turn, hs] at hturn
  | finished => simp [turn, hs] at hturn

/-- A stage that brings something brings the next chunk, or what follows the chunks. -/
theorem brings (hturn : e.turn = (some result, next)) : e.Advances result next := by
  cases hs : e.stage with
  | fields left =>
    cases left with
    | nil => simp [turn, hs] at hturn
    | cons field left =>
      simp only [turn, hs] at hturn
      cases hturn
      refine .chunk ?_ ?_
      · simp [leading, hs, Form.leadingChunks, Form.fileChunks, Field.part_eq]
      · simp [last, hs]
  | fileHeader =>
    simp only [turn, hs] at hturn
    split at hturn
    · rename_i file hfile
      cases hturn
      refine .chunk ?_ ?_
      · simp [leading, hs, Form.fileChunks, hfile, FilePart.header_eq]
      · simp [last, hs]
    · cases hturn
  | fileBody =>
    simp only [turn, hs] at hturn
    split at hturn
    · rename_i file fault rest hfile hreads
      cases hturn
      have hlast : e.last = .error fault := by
        simp [last, hs, Form.lastChunk, hfile, hreads, faultOf?]
      rw [← hlast]
      refine .last ?_ ?_
      · simp [leading, hs, hreads, blocksOf]
      · simp [hlast]
    · rename_i file b block rest hfile hreads
      cases hturn
      refine .chunk ?_ ?_
      · simp [leading, hs, hfile, hreads, blocksOf]
      · simp [last, hs, hfile, hreads, Form.lastChunk, faultOf?]
    · cases hturn
  | trailer =>
    simp only [turn, hs] at hturn
    cases hturn
    have hlast : e.last = .ok ⟨e.form.trailer, false⟩ := by simp [last, hs, Form.trailer_eq]
    rw [← hlast]
    exact .last (by simp [leading, hs]) fun _ _ => ⟨rfl, rfl⟩
  | finished =>
    simp only [turn, hs] at hturn
    cases hturn
    have hlast : e.last = .ok ⟨[], false⟩ := by simp [last, hs]
    have hleading : e.leading = [] := by simp [leading, hs]
    rw [← hlast]
    exact .last hleading fun _ _ => ⟨hleading, hlast⟩

/-- **One pull brings the next chunk**, or what follows the chunks. -/
theorem advances_pull (e : Encoder) : e.Advances e.pull.1 e.pull.2 := by
  induction e using pull.induct with
  | case1 e result next hturn =>
    rw [pull_of_brings hturn]
    exact brings hturn
  | case2 e next hturn _ ih =>
    obtain ⟨hleading, hlast⟩ := passes hturn
    rw [pull_of_passes hturn]
    generalize next.pull.1 = result, next.pull.2 = later at ih
    cases ih with
    | chunk hnext hlater => exact .chunk (hleading.symm.trans hnext) (hlater.trans hlast)
    | last hnext hfinished =>
      rw [hlast] at hfinished ⊢
      exact .last (hleading.symm.trans hnext) hfinished

theorem pull_of_cons {chunk : Chunk} {rest : List Chunk} (h : e.leading = chunk :: rest) :
    e.pull.1 = .ok chunk ∧ e.pull.2.leading = rest ∧ e.pull.2.last = e.last := by
  have hpull := advances_pull e
  generalize e.pull.1 = result, e.pull.2 = next at hpull ⊢
  cases hpull with
  | chunk hleading hlast =>
    cases hleading.symm.trans h
    exact ⟨rfl, rfl, hlast⟩
  | last hleading => cases hleading.symm.trans h

theorem pull_of_nil (h : e.leading = []) :
    e.pull.1 = e.last ∧ ∀ chunk, e.last = .ok chunk →
      e.pull.2.leading = [] ∧ e.pull.2.last = .ok ⟨[], false⟩ := by
  have hpull := advances_pull e
  generalize e.pull.1 = result, e.pull.2 = next at hpull ⊢
  cases hpull with
  | chunk hleading => cases hleading.symm.trans h
  | last _ hfinished => exact ⟨rfl, hfinished⟩

/-! ### All pulls -/

/-- The encoder after so many pulls. -/
def after : Nat → Encoder → Encoder
  | 0, e => e
  | n + 1, e => after n e.pull.2

theorem after_succ (n : Nat) (e : Encoder) : after (n + 1) e = (after n e).pull.2 := by
  induction n generalizing e with
  | zero => rfl
  | succ n ih => exact ih e.pull.2

/-- Each pull takes one of the chunks. -/
theorem leading_after (e : Encoder) {n : Nat} (hn : n ≤ e.leading.length) :
    (after n e).leading = e.leading.drop n ∧ (after n e).last = e.last := by
  induction n with
  | zero => exact ⟨rfl, rfl⟩
  | succ n ih =>
    obtain ⟨hleading, hlast⟩ := ih (Nat.le_of_succ_le hn)
    rw [List.drop_eq_getElem_cons hn] at hleading
    obtain ⟨-, hnext, hsame⟩ := pull_of_cons hleading
    rw [after_succ]
    exact ⟨hnext, hsame.trans hlast⟩

/-- The pulls bring the chunks in front of the last one after the other. -/
theorem pull_after_of_leading {chunk : Chunk} {n : Nat} (h : e.leading[n]? = some chunk) :
    (after n e).pull.1 = .ok chunk := by
  obtain ⟨hn, hchunk⟩ := List.getElem?_eq_some_iff.1 h
  obtain ⟨hleading, -⟩ := leading_after e (Nat.le_of_lt hn)
  rw [List.drop_eq_getElem_cons hn, hchunk] at hleading
  exact (pull_of_cons hleading).1

/-- Then comes what follows the chunks. -/
theorem pull_after_leading (e : Encoder) : (after e.leading.length e).pull.1 = e.last := by
  obtain ⟨hleading, hlast⟩ := leading_after e (Nat.le_refl _)
  rw [List.drop_length] at hleading
  rw [(pull_of_nil hleading).1, hlast]

/-- Once the body has ended, every pull brings an empty chunk. -/
theorem pull_after_last (e : Encoder) {chunk : Chunk} (h : e.last = .ok chunk) {n : Nat}
    (hn : e.leading.length < n) : (after n e).pull.1 = .ok ⟨[], false⟩ := by
  suffices hdone : (after n e).leading = [] ∧ (after n e).last = .ok ⟨[], false⟩ by
    rw [(pull_of_nil hdone.1).1, hdone.2]
  induction hn with
  | refl =>
    obtain ⟨hleading, hlast⟩ := leading_after e (Nat.le_refl _)
    rw [List.drop_length] at hleading
    rw [after_succ]
    exact (pull_of_nil hleading).2 chunk (hlast.trans h)
  | step _ ih =>
    rw [after_succ]
    exact (pull_of_nil ih.1).2 _ ih.2

theorem pulls_succ_ok {chunk : Chunk} (h : e.pull.1 = .ok chunk) (limit : Nat) :
    e.pulls (limit + 1) 0 = .ok chunk :: if chunk.more then e.pull.2.pulls limit 0 else [] := by
  rw [Encoder.pulls, show e.pull = (e.pull.1, e.pull.2) from rfl, h]
  by_cases hmore : chunk.more = true <;> simp [hmore]

theorem pulls_succ_error {fault : FileFault} (h : e.pull.1 = .error fault) (limit : Nat) :
    e.pulls (limit + 1) 0 = [.error fault] := by
  rw [Encoder.pulls, show e.pull = (e.pull.1, e.pull.2) from rfl, h]

/-- Something follows every chunk in front of the last. -/
theorem more_of_mem_leading {chunk : Chunk} (h : chunk ∈ e.leading) : chunk.more = true := by
  unfold leading at h
  split at h
  · exact Form.more_of_mem_leadingChunks _ _ h
  · exact Form.more_of_mem_fileChunks _ _ h
  · split at h
    · obtain ⟨block, -, rfl⟩ := List.mem_map.1 h
      rfl
    · cases h
  all_goals cases h

/-- Nothing follows the last chunk. -/
theorem more_of_last {chunk : Chunk} (h : e.last = .ok chunk) : chunk.more = false := by
  unfold last Form.lastChunk at h
  split at h
  · cases h; rfl
  · cases h; rfl
  · split at h <;> cases h
    rfl

/-- Pulls up to the first after which nothing follows. -/
theorem pulls_eq {leading : List Chunk} (h : e.leading = leading) {limit : Nat}
    (hlimit : leading.length ≤ limit) :
    e.pulls (limit + 1) 0 = leading.map .ok ++ [e.last] := by
  induction leading generalizing e limit with
  | nil =>
    have hpull := (pull_of_nil h).1
    cases hlast : e.last with
    | error fault =>
      rw [hlast] at hpull
      rw [pulls_succ_error hpull]
      rfl
    | ok chunk =>
      rw [hlast] at hpull
      rw [pulls_succ_ok hpull, more_of_last hlast]
      rfl
  | cons chunk leading ih =>
    obtain ⟨hfirst, hnext, hlast⟩ := pull_of_cons h
    have hmore : chunk.more = true := more_of_mem_leading (h ▸ List.mem_cons_self)
    cases limit with
    | zero => cases hlimit
    | succ limit =>
      rw [pulls_succ_ok hfirst, hmore, ih hnext (Nat.le_of_succ_le_succ hlimit), hlast]
      rfl

/-- There are enough pulls to reach the end of the body. -/
theorem length_leading_lt (e : Encoder) : e.leading.length < e.pullsLeft := by
  have hblocks := length_blocksOf_le e.reads
  cases hs : e.stage with
  | fields left =>
    simp only [leading, pullsLeft, hs, Form.length_leadingChunks]
    split <;> omega
  | fileHeader =>
    simp only [leading, pullsLeft, hs, Form.fileChunks]
    split
    · simp only [List.length_cons, List.length_map]
      omega
    · exact Nat.succ_pos _
  | fileBody =>
    simp only [leading, pullsLeft, hs]
    split
    · rw [List.length_map]
      omega
    · exact Nat.succ_pos _
  | trailer => simp [leading, pullsLeft, hs]
  | finished => simp [leading, pullsLeft, hs]

/-- **The pulls bring the chunks, and then what follows them.** -/
theorem chunks_eq (e : Encoder) : e.chunks = e.leading.map .ok ++ [e.last] := by
  have hlimit := e.length_leading_lt
  obtain ⟨limit, heq⟩ := Nat.exists_eq_add_of_lt hlimit
  rw [chunks, heq]
  exact pulls_eq rfl (Nat.le_add_right _ _)

end Encoder

/-! ### Every form -/

namespace Form

variable (form : Form) (blocks : List (List UInt8))

/-- Something follows every chunk but the last. -/
theorem more_eq_false_iff (n : Nat) (chunk : Chunk) (h : (form.chunks blocks)[n]? = some chunk) :
    chunk.more = false ↔ n + 1 = (form.chunks blocks).length := by
  have hlength : (form.chunks blocks).length = (form.leadingChunks blocks).length + 1 := by
    rw [chunks, List.length_append, List.length_singleton]
  rw [hlength]
  rcases Nat.lt_trichotomy n (form.leadingChunks blocks).length with hlt | heq | hgt
  · rw [chunks, List.getElem?_append_left hlt] at h
    have hmore := form.more_of_mem_leadingChunks blocks (List.mem_of_getElem? h)
    simp only [hmore, Bool.true_eq_false, false_iff]
    omega
  · rw [chunks, List.getElem?_append_right (by omega), heq, Nat.sub_self] at h
    cases h
    simp [heq]
  · rw [List.getElem?_eq_none (by omega)] at h
    cases h

/-- The chunk that a read of the file brings. -/
theorem chunk_of_block {form : Form} {blocks : List (List UInt8)} (hfile : form.file.isSome)
    {n : Nat} {block : List UInt8} (h : blocks[n]? = some block) :
    (form.chunks blocks)[form.fields.length + 1 + n]? = some ⟨block, true⟩ := by
  obtain ⟨file, hfile⟩ := Option.isSome_iff_exists.1 hfile
  obtain ⟨hn, -⟩ := List.getElem?_eq_some_iff.1 h
  rw [chunks, List.getElem?_append_left (by rw [length_leadingChunks, hfile]; simp; omega),
    leadingChunks, List.getElem?_append_right (by simp; omega), List.length_map,
    show form.fields.length + 1 + n - form.fields.length = n + 1 by omega, fileChunks, hfile]
  simp [h]

/-- The chunks make up the body. -/
theorem flatMap_chunks :
    (form.chunks blocks).flatMap Chunk.bytes = form.reference blocks.flatten := by
  have hblocks : (blocks.map fun block => Chunk.mk block true).flatMap Chunk.bytes =
      blocks.flatten := by
    rw [List.flatMap_map, List.flatMap_id']
  cases hfile : form.file with
  | none =>
    simp [chunks, leadingChunks, fileChunks, reference, hfile, List.flatMap_map]
  | some file =>
    simp [chunks, leadingChunks, fileChunks, reference, hfile, List.flatMap_map, hblocks]

/-- The reference is the body of the form. -/
theorem reference_eq (content : List UInt8) : form.reference content = form.body content := by
  have hfields : form.fields.flatMap (Field.written form.boundary) = form.fieldParts.flatten := by
    rw [fieldParts, List.flatMap_def]
    exact congrArg List.flatten (List.map_congr_left fun field _ =>
      (field.part_eq form.boundary).symm)
  rw [reference, body, hfields, fileHeader, fileBytes, trailer_eq]
  cases form.file with
  | none => simp only [List.append_nil]
  | some file => simp only [FilePart.header_eq, List.append_assoc]

end Form

/-- What holds of the encoder of a form whose file is read in these blocks. -/
structure BringsBody (form : Form) (blocks : List (List UInt8)) (e : Encoder) : Prop where
  /-- The pulls up to the first after which nothing follows. -/
  chunks : e.chunks = (form.chunks blocks).map .ok
  /-- Later pulls bring an empty chunk, after which nothing follows. -/
  pulls : ∀ n, (e.after n).pull.1 = .ok ((form.chunks blocks)[n]?.getD ⟨[], false⟩)
  count : (form.chunks blocks).length =
    form.fields.length + (if form.file.isSome then 1 + blocks.length else 0) + 1
  /-- Something follows every chunk but the last. -/
  more : ∀ n chunk, (form.chunks blocks)[n]? = some chunk →
    (chunk.more = false ↔ n + 1 = (form.chunks blocks).length)
  body : (form.chunks blocks).flatMap Chunk.bytes = form.reference blocks.flatten
  /-- Each read of the file brings one chunk, neither empty nor larger than a block. -/
  reads : form.file.isSome → ∀ n block, blocks[n]? = some block →
    (form.chunks blocks)[form.fields.length + 1 + n]? = some ⟨block, true⟩ ∧
      block ≠ [] ∧ block.length ≤ blockSize
  /-- A pull takes four turns at most. -/
  turns : ∀ n, ∃ k ≤ 4, Encoder.Returns k (e.after n) (e.after n).pull.1 (e.after n).pull.2

namespace Encoder

theorem rank_le (s : Stage) : s.rank ≤ 3 := by
  cases s <;> simp [Stage.rank]

theorem bringsBody_start {form : Form} {opened : OpenFile} {blocks : List (List UInt8)}
    (hreads : form.file.isSome → opened.reads = blocks.map .ok)
    (hblocks : ∀ block ∈ blocks, block ≠ [] ∧ block.length ≤ blockSize) :
    BringsBody form blocks (start form opened) := by
  obtain ⟨hleading, hlast⟩ : (start form opened).leading = form.leadingChunks blocks ∧
      (start form opened).last = .ok ⟨form.ending, false⟩ :=
    chunks_of_endsAfter fun hfile => ⟨fun block hmem => (hblocks block hmem).1, .inl (hreads hfile)⟩
  have hcount : (form.chunks blocks).length =
      form.fields.length + (if form.file.isSome then 1 + blocks.length else 0) + 1 := by
    rw [Form.chunks, List.length_append, form.length_leadingChunks blocks]
    rfl
  refine ⟨?_, fun n => ?_, hcount, form.more_eq_false_iff blocks, form.flatMap_chunks blocks,
    ?_, fun n => ?_⟩
  · rw [chunks_eq, hleading, hlast, Form.chunks, List.map_append]
    rfl
  · rw [Form.chunks, ← hleading]
    rcases Nat.lt_trichotomy n (start form opened).leading.length with hlt | rfl | hgt
    · rw [List.getElem?_append_left hlt, List.getElem?_eq_getElem hlt]
      exact pull_after_of_leading (List.getElem?_eq_getElem hlt)
    · rw [List.getElem?_concat_length, pull_after_leading, hlast]
      rfl
    · rw [List.getElem?_eq_none (by rw [List.length_append, List.length_singleton]; omega)]
      exact pull_after_last _ hlast hgt
  · intro hfile n block hn
    have hlarge := hblocks block (List.mem_of_getElem? hn)
    exact ⟨Form.chunk_of_block hfile hn, hlarge.1, hlarge.2⟩
  · obtain ⟨k, hk, hreturns⟩ := returns_pull ((start form opened).after n)
    have hrank := rank_le ((start form opened).after n).stage
    exact ⟨k, by omega, hreturns⟩

/-- The encoder of a form whose file can be opened. -/
theorem ofForm_eq_start {files : FileOpener} {form : Form} {opened : OpenFile}
    (hopen : ∀ file, form.file = some file → files file.path = .ok opened) :
    Encoder.ofForm files form = .ok (start form (form.openedAs opened)) := by
  cases hfile : form.file with
  | none => simp [Encoder.ofForm, Form.openedAs, hfile]
  | some file => simp [Encoder.ofForm, Form.openedAs, hfile, hopen file hfile, Except.map]

/-- The encoder of a form whose file is read in these blocks. -/
theorem ofForm_eq {files : FileOpener} {form : Form} {length : Nat} {blocks : List (List UInt8)}
    (hopen : ∀ file, form.file = some file → files file.path = .ok ⟨length, blocks.map .ok⟩) :
    ∃ opened, Encoder.ofForm files form = .ok (start form opened) ∧
      (form.file.isSome → opened.reads = blocks.map .ok) :=
  ⟨_, ofForm_eq_start hopen, fun hfile => by rw [Form.openedAs, if_pos hfile]⟩

end Encoder

/-- **Whatever blocks the reads of the file bring, the pulls bring the body.** -/
theorem body_in_chunks (files : FileOpener) (form : Form) (length : Nat)
    (blocks : List (List UInt8))
    (hopen : ∀ file, form.file = some file → files file.path = .ok ⟨length, blocks.map .ok⟩)
    (hblocks : ∀ block ∈ blocks, block ≠ [] ∧ block.length ≤ blockSize) :
    ∃ e, Encoder.ofForm files form = .ok e ∧ BringsBody form blocks e := by
  obtain ⟨opened, hopened, hreads⟩ := Encoder.ofForm_eq hopen
  exact ⟨Encoder.start form opened, hopened, Encoder.bringsBody_start hreads hblocks⟩

/-- A form with two fields and a file. -/
def sampleForm : Form :=
  (((Form.empty "B").text "a" "1").textLatin1 "b" [0xe9]).attach
    ⟨.ofText "part.gcode", "part.gcode", some "application/octet-stream"⟩

theorem body_in_chunks_of_short_reads :
    (∀ file, sampleForm.file = some file →
      (fun _ => .ok ⟨3, [.ok [71, 13], .ok [10]]⟩ : FileOpener) file.path =
        .ok ⟨3, [[71, 13], [10]].map .ok⟩) ∧
    (∀ block ∈ ([[71, 13], [10]] : List (List UInt8)), block ≠ [] ∧ block.length ≤ blockSize) ∧
    ∃ e, Encoder.ofForm (fun _ => .ok ⟨3, [.ok [71, 13], .ok [10]]⟩) sampleForm = .ok e ∧
      BringsBody sampleForm [[71, 13], [10]] e :=
  ⟨fun _ _ => rfl, by decide +kernel,
    body_in_chunks _ sampleForm 3 [[71, 13], [10]] (fun _ _ => rfl) (by decide +kernel)⟩

end PrintClient.Multipart
