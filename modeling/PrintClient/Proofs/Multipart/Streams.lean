import Mathlib.Algebra.Ring.Nat
import Mathlib.Data.List.Basic
import PrintClient.Proofs.Multipart.Pulls

/-!
# The body of a form as a stream

A stream pulls chunk after chunk. It leaves out empty chunks, and ends with the chunk after which
nothing follows, or with the first fault. Its length is announced before the file is read.

* `Encoder.Yields`, `yields_iff`: the rounds of a stream, and that they make one stream;
* `Encoder.stream_eq`: the stream from the chunks that are still to come;
* `ne_nil_of_mem_leadingChunks`, `ne_nil_of_lastChunk`: no chunk of a body is empty;
* `Encoder.StreamsTo`, `stream_ends_at_fault`: a read that fails is told in place of the end;
* `Holds`, `announced_length_is_real`: the announced length is that of the body.
-/

namespace PrintClient.Multipart

open Text (utf8)

namespace Encoder

variable {e : Encoder} {items : List (Except FileFault (List UInt8))}

/-! ### Rounds -/

/-- What a stream yields, round by round. A round pulls a chunk and yields it unless it is empty;
the stream goes on if something follows the chunk. -/
inductive Yields : Encoder → List (Except FileFault (List UInt8)) → Prop
  | fault {e : Encoder} {fault : FileFault} (pull : e.pull.1 = .error fault) :
      Yields e [.error fault]
  | last {e : Encoder} {chunk : Chunk} (pull : e.pull.1 = .ok chunk) (more : chunk.more = false) :
      Yields e (item? (.ok chunk)).toList
  | next {e : Encoder} {chunk : Chunk} {items : List (Except FileFault (List UInt8))}
      (pull : e.pull.1 = .ok chunk) (more : chunk.more = true) (rest : Yields e.pull.2 items) :
      Yields e ((item? (.ok chunk)).toList ++ items)

/-- A stream is made of the chunks that are still to come, and of what follows them. -/
theorem stream_eq (e : Encoder) :
    e.stream = e.leading.filterMap (fun chunk => item? (.ok chunk)) ++ (item? e.last).toList := by
  rw [stream, chunks_eq, List.filterMap_append, List.filterMap_map]
  rfl

theorem stream_of_nil (h : e.leading = []) : e.stream = (item? e.last).toList := by
  rw [stream_eq, h]
  rfl

theorem stream_of_cons {chunk : Chunk} {rest : List Chunk} (h : e.leading = chunk :: rest) :
    e.stream = (item? (.ok chunk)).toList ++ e.pull.2.stream := by
  obtain ⟨-, hnext, hlast⟩ := pull_of_cons h
  rw [stream_eq, stream_eq, h, hnext, hlast, List.filterMap_cons]
  cases item? (.ok chunk) <;> rfl

theorem yields_stream (e : Encoder) : e.Yields e.stream := by
  generalize hleading : e.leading = leading
  induction leading generalizing e with
  | nil =>
    have hpull := (pull_of_nil hleading).1
    rw [stream_of_nil hleading]
    cases hlast : e.last with
    | error fault => exact .fault (hpull.trans hlast)
    | ok chunk => exact .last (hpull.trans hlast) (more_of_last hlast)
  | cons chunk leading ih =>
    obtain ⟨hpull, hnext, -⟩ := pull_of_cons hleading
    have hmore : chunk.more = true := more_of_mem_leading (hleading ▸ List.mem_cons_self)
    rw [stream_of_cons hleading]
    exact .next hpull hmore (ih e.pull.2 hnext)

theorem Yields.eq_stream (h : e.Yields items) : items = e.stream := by
  induction h with
  | @fault e fault pull =>
    cases hleading : e.leading with
    | nil =>
      rw [stream_of_nil hleading, ← (pull_of_nil hleading).1, pull]
      rfl
    | cons chunk rest => cases pull.symm.trans (pull_of_cons hleading).1
  | @last e chunk pull more =>
    cases hleading : e.leading with
    | nil => rw [stream_of_nil hleading, ← (pull_of_nil hleading).1, pull]
    | cons first rest =>
      -- something follows each of the chunks in front of the last
      cases pull.symm.trans (pull_of_cons hleading).1
      rw [more_of_mem_leading (hleading ▸ List.mem_cons_self)] at more
      cases more
  | @next e chunk items pull more _ ih =>
    cases hleading : e.leading with
    | nil =>
      rw [more_of_last ((pull_of_nil hleading).1.symm.trans pull)] at more
      cases more
    | cons first rest =>
      cases pull.symm.trans (pull_of_cons hleading).1
      rw [stream_of_cons hleading, ih]

/-- **The rounds of a stream end, and make one stream.** -/
theorem yields_iff : e.Yields items ↔ items = e.stream :=
  ⟨Yields.eq_stream, fun h => h ▸ e.yields_stream⟩

end Encoder

/-! ### No chunk of a body is empty -/

theorem ne_nil_of_mem_blocksOf {reads : List Read} {block : List UInt8}
    (h : block ∈ blocksOf reads) : block ≠ [] := by
  fun_induction blocksOf reads with
  | case1 b block rest ih =>
    rcases List.mem_cons.1 h with rfl | h
    · exact List.cons_ne_nil _ _
    · exact ih h
  | case2 => cases h

namespace Form

variable {form : Form} {blocks : List (List UInt8)} {chunk : Chunk}

theorem ne_nil_of_mem_leadingChunks (hfull : ∀ block ∈ blocks, block ≠ [])
    (h : chunk ∈ form.leadingChunks blocks) : chunk.bytes ≠ [] := by
  have hdashes : utf8 "--" = [45, 45] := by decide
  rcases List.mem_append.1 h with h | h
  · obtain ⟨field, -, rfl⟩ := List.mem_map.1 h
    simp [Field.written, hdashes]
  · unfold fileChunks at h
    split at h
    · rcases List.mem_cons.1 h with rfl | h
      · simp [FilePart.written, hdashes]
      · obtain ⟨block, hmem, rfl⟩ := List.mem_map.1 h
        exact hfull block hmem
    · cases h

theorem ne_nil_of_lastChunk {fault : Option FileFault} (h : form.lastChunk fault = .ok chunk) :
    chunk.bytes ≠ [] := by
  have hdashes : utf8 "--" = [45, 45] := by decide
  have hline : utf8 "\r\n--" = [13, 10, 45, 45] := by decide
  unfold lastChunk at h
  split at h
  · cases h
  · cases h
    unfold ending
    split <;> simp [hdashes, hline]

end Form

namespace Encoder

/-! ### The stream of a body -/

/-- A stream yields these chunks, none of which is empty, and then the last one or a fault. -/
structure StreamsTo (e : Encoder) (chunks : List Chunk) (ending : Except FileFault Chunk) :
    Prop where
  /-- The pulls bring the chunks, and then what follows them. -/
  pulls : ∀ n chunk, chunks[n]? = some chunk → (e.after n).pull.1 = .ok chunk
  pull : (e.after chunks.length).pull.1 = ending
  /-- Something follows each of the chunks, but nothing follows the last one. -/
  more : (∀ chunk ∈ chunks, chunk.more = true) ∧ ∀ chunk, ending = .ok chunk → chunk.more = false
  full : (∀ chunk ∈ chunks, chunk.bytes ≠ []) ∧ ∀ chunk, ending = .ok chunk → chunk.bytes ≠ []
  /-- The rounds of the stream yield their bytes, and nothing else. -/
  rounds : ∀ items, e.Yields items ↔
    items = chunks.map (fun chunk => .ok chunk.bytes) ++ [ending.map Chunk.bytes]

theorem item?_of_ne_nil {result : Except FileFault Chunk}
    (h : ∀ chunk, result = .ok chunk → chunk.bytes ≠ []) :
    item? result = some (result.map Chunk.bytes) := by
  cases result with
  | error fault => rfl
  | ok chunk =>
    have hfull : chunk.bytes.isEmpty = false := by
      rw [List.isEmpty_eq_false_iff]
      exact h chunk rfl
    rw [item?, hfull]
    rfl

/-- **A stream leaves out nothing of a body, up to its end or to the first read that fails.** -/
theorem streamsTo_start (form : Form) (opened : OpenFile) :
    (start form opened).StreamsTo (form.leadingChunks (blocksOf opened.reads))
      (form.lastChunk (faultOf? opened.reads)) := by
  have hleading : (start form opened).leading = form.leadingChunks (blocksOf opened.reads) := rfl
  have hlast : (start form opened).last = form.lastChunk (faultOf? opened.reads) := rfl
  have hfull : ∀ chunk ∈ (start form opened).leading, chunk.bytes ≠ [] := fun chunk hmem =>
    Form.ne_nil_of_mem_leadingChunks (fun _ => ne_nil_of_mem_blocksOf) hmem
  have hfull' : ∀ chunk, (start form opened).last = .ok chunk → chunk.bytes ≠ [] :=
    fun chunk => Form.ne_nil_of_lastChunk
  rw [← hleading, ← hlast]
  refine ⟨fun n chunk h => pull_after_of_leading h, pull_after_leading _,
    ⟨fun chunk => more_of_mem_leading, fun chunk => more_of_last⟩, ⟨hfull, hfull'⟩, fun items => ?_⟩
  have hitems : (start form opened).leading.filterMap (fun chunk => item? (.ok chunk)) =
      (start form opened).leading.map fun chunk => .ok chunk.bytes := by
    rw [List.filterMap_eq_map_iff_forall_eq_some]
    intro chunk hmem
    refine item?_of_ne_nil fun chunk' heq => ?_
    cases heq
    exact hfull chunk hmem
  rw [yields_iff, stream_eq, hitems, item?_of_ne_nil hfull']
  rfl

variable {form : Form} {opened : OpenFile} {blocks : List (List UInt8)}

theorem streamsTo_of_failsAfter {fault : FileFault} (hfile : form.file.isSome)
    (hreads : FailsAfter opened.reads blocks fault) :
    (start form (form.openedAs opened)).StreamsTo (form.leadingChunks blocks) (.error fault) := by
  obtain ⟨hblocks, hfault⟩ := hreads.eq
  have hlast : form.lastChunk (some fault) = .error fault := by
    obtain ⟨file, hfile⟩ := Option.isSome_iff_exists.1 hfile
    simp [Form.lastChunk, hfile]
  rw [Form.openedAs, if_pos hfile, ← hblocks, ← hlast, ← hfault]
  exact streamsTo_start form opened

theorem streamsTo_of_endsAfter (hreads : form.file.isSome → EndsAfter opened.reads blocks) :
    (start form (form.openedAs opened)).StreamsTo (form.leadingChunks blocks)
      (.ok ⟨form.ending, false⟩) := by
  have hends : form.file.isSome → EndsAfter (form.openedAs opened).reads blocks := by
    intro hfile
    rw [Form.openedAs, if_pos hfile]
    exact hreads hfile
  obtain ⟨hleading, hlast⟩ := chunks_of_endsAfter hends
  rw [← hleading, ← hlast]
  exact streamsTo_start form _

end Encoder

/-- **A read that fails is told in place of the end.** If the reads of the file bring some blocks
and then fail, the stream yields the chunks up to these blocks, the fault, and nothing else. If they
bring some blocks and then the end of the file, or if there is no file, the stream yields all chunks
up to the end of the body. -/
theorem stream_ends_at_fault (files : FileOpener) (form : Form) (opened : OpenFile)
    (hopen : ∀ file, form.file = some file → files file.path = .ok opened) :
    ∃ e, Encoder.ofForm files form = .ok e ∧
      (∀ blocks fault, form.file.isSome → FailsAfter opened.reads blocks fault →
        e.StreamsTo (form.leadingChunks blocks) (.error fault)) ∧
      ∀ blocks, (form.file.isSome → EndsAfter opened.reads blocks) →
        e.StreamsTo (form.leadingChunks blocks) (.ok ⟨form.ending, false⟩) :=
  ⟨_, Encoder.ofForm_eq_start hopen,
    fun _ _ hfile hreads => Encoder.streamsTo_of_failsAfter hfile hreads,
    fun _ hreads => Encoder.streamsTo_of_endsAfter hreads⟩

/-- The file of the form fails after its first block. -/
theorem stream_ends_at_fault_of_sampleForm :
    (∀ file, sampleForm.file = some file →
      (fun _ => .ok ⟨5, [.ok [71, 13], .error .isDirectory]⟩ : FileOpener) file.path =
        .ok ⟨5, [.ok [71, 13], .error .isDirectory]⟩) ∧
    FailsAfter [.ok [71, 13], .error .isDirectory] [[71, 13]] .isDirectory ∧
    ∃ e, Encoder.ofForm (fun _ => .ok ⟨5, [.ok [71, 13], .error .isDirectory]⟩) sampleForm = .ok e ∧
      e.StreamsTo (sampleForm.leadingChunks [[71, 13]]) (.error .isDirectory) := by
  have hfails : FailsAfter [.ok [71, 13], .error .isDirectory] [[71, 13]] .isDirectory :=
    ⟨by decide, [], rfl⟩
  obtain ⟨e, hopened, hfail, -⟩ := stream_ends_at_fault
    (fun _ => .ok ⟨5, [.ok [71, 13], .error .isDirectory]⟩) sampleForm
    ⟨5, [.ok [71, 13], .error .isDirectory]⟩ fun _ _ => rfl
  exact ⟨fun _ _ => rfl, hfails, e, hopened, hfail _ _ rfl hfails⟩

/-! ### The announced length -/

namespace Form

/-- The length of pieces that follow each other is that of what they make up. -/
theorem totalLength_eq (pieces : List (List UInt8)) :
    totalLength pieces = pieces.flatten.length := by
  induction pieces with
  | nil => rfl
  | cons piece pieces ih => rw [List.flatten_cons, List.length_append, ← ih, totalLength]; rfl

theorem length_body (form : Form) (content : List UInt8) :
    (form.body content).length = form.frameLength + (form.fileBytes content).length := by
  simp only [body, frameLength, totalLength_eq, List.length_append]
  omega

end Form

/-- A file with this content, which does not change: its length when it was opened is that of the
content, and the reads bring the content, in whatever blocks, and then the end of the file. -/
structure Holds (file : OpenFile) (content : List UInt8) : Prop where
  length : file.length = content.length
  reads : ∃ blocks, EndsAfter file.reads blocks ∧ blocks.flatten = content

/-- The length of the chunks of a body whose file brings these blocks. -/
theorem Form.sum_length_chunks (form : Form) (blocks : List (List UInt8)) :
    ((form.chunks blocks).map fun chunk => chunk.bytes.length).sum =
      form.frameLength + (form.fileBytes blocks.flatten).length := by
  rw [← form.length_body, ← form.reference_eq, ← form.flatMap_chunks, List.length_flatMap]

/-- The announced length counts the bytes that the reads bring. -/
theorem Form.length_fileBytes {form : Form} {opened : OpenFile} {content : List UInt8}
    (h : form.file.isSome → opened.length = content.length) :
    (form.fileBytes content).length = (form.openedAs opened).length := by
  cases hfile : form.file with
  | none => simp [fileBytes, openedAs, hfile]
  | some file => simp [fileBytes, openedAs, hfile, h]

/-- **The announced length is that of the body.** It is the number of the bytes of all chunks up to
the last one, and of all items of the stream, for every file that does not change. -/
theorem announced_length_is_real (files : FileOpener) (form : Form) (opened : OpenFile)
    (content : List UInt8) (hopen : ∀ file, form.file = some file → files file.path = .ok opened)
    (hfile : form.file.isSome → Holds opened content) :
    ∃ (e : Encoder) (chunks : List Chunk) (last : Chunk), Encoder.ofForm files form = .ok e ∧
      (∀ n chunk, (chunks ++ [last])[n]? = some chunk → (e.after n).pull.1 = .ok chunk) ∧
      (∀ chunk ∈ chunks, chunk.more = true) ∧ last.more = false ∧
      ((chunks ++ [last]).map fun chunk => chunk.bytes.length).sum = e.contentLength ∧
      ∃ items : List (List UInt8), e.Yields (items.map .ok) ∧
        (items.map List.length).sum = e.contentLength := by
  obtain ⟨blocks, hends, hcontent⟩ : ∃ blocks, (form.file.isSome → EndsAfter opened.reads blocks) ∧
      (form.file.isSome → blocks.flatten = content) := by
    by_cases hsome : form.file.isSome
    · obtain ⟨blocks, hends, hcontent⟩ := (hfile hsome).reads
      exact ⟨blocks, fun _ => hends, fun _ => hcontent⟩
    · exact ⟨[], fun h => absurd h hsome, fun h => absurd h hsome⟩
  have hstream : (Encoder.start form (form.openedAs opened)).StreamsTo (form.leadingChunks blocks)
      (.ok ⟨form.ending, false⟩) := Encoder.streamsTo_of_endsAfter hends
  have hbytes : (form.fileBytes blocks.flatten).length = (form.openedAs opened).length := by
    refine Form.length_fileBytes fun hsome => ?_
    rw [hcontent hsome, (hfile hsome).length]
  have hlength : ((form.chunks blocks).map fun chunk => chunk.bytes.length).sum =
      (Encoder.start form (form.openedAs opened)).contentLength := by
    rw [form.sum_length_chunks, hbytes]
    rfl
  refine ⟨_, form.leadingChunks blocks, ⟨form.ending, false⟩, Encoder.ofForm_eq_start hopen,
    fun n chunk hn => ?_, hstream.more.1, rfl, hlength, (form.chunks blocks).map Chunk.bytes,
    ?_, ?_⟩
  · rcases Nat.lt_trichotomy n (form.leadingChunks blocks).length with hlt | rfl | hgt
    · rw [List.getElem?_append_left hlt] at hn
      exact hstream.pulls n chunk hn
    · rw [List.getElem?_concat_length] at hn
      cases hn
      exact hstream.pull
    · rw [List.getElem?_eq_none (by rw [List.length_append, List.length_singleton]; omega)] at hn
      cases hn
  · rw [hstream.rounds, Form.chunks]
    simp [Except.map]
  · rw [List.map_map]
    exact hlength

/-- The file of the form is read in two blocks. -/
theorem announced_length_of_sampleForm :
    (∀ file, sampleForm.file = some file →
      (fun _ => .ok ⟨3, [.ok [71, 13], .ok [10]]⟩ : FileOpener) file.path =
        .ok ⟨3, [.ok [71, 13], .ok [10]]⟩) ∧
    Holds ⟨3, [.ok [71, 13], .ok [10]]⟩ [71, 13, 10] ∧
    ∃ (e : Encoder) (chunks : List Chunk) (last : Chunk),
      Encoder.ofForm (fun _ => .ok ⟨3, [.ok [71, 13], .ok [10]]⟩) sampleForm = .ok e ∧
      (∀ n chunk, (chunks ++ [last])[n]? = some chunk → (e.after n).pull.1 = .ok chunk) ∧
      (∀ chunk ∈ chunks, chunk.more = true) ∧ last.more = false ∧
      ((chunks ++ [last]).map fun chunk => chunk.bytes.length).sum = e.contentLength ∧
      ∃ items : List (List UInt8), e.Yields (items.map .ok) ∧
        (items.map List.length).sum = e.contentLength := by
  have hholds : Holds ⟨3, [.ok [71, 13], .ok [10]]⟩ [71, 13, 10] :=
    ⟨rfl, [[71, 13], [10]], ⟨by decide, .inl rfl⟩, rfl⟩
  exact ⟨fun _ _ => rfl, hholds,
    announced_length_is_real _ sampleForm _ _ (fun _ _ => rfl) fun _ => hholds⟩

end PrintClient.Multipart
