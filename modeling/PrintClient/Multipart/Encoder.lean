import PrintClient.Multipart.Form

/-!
# Bodies in chunks

An `Encoder` brings the body of a form one chunk per pull: each field's part, the file's header, one
chunk per read of the file, and the trailer, which alone says that nothing more follows. It goes
through the body in stages, and passes over those that have nothing to bring. The length of the body
is announced when the file is opened.

* `Encoder.ofForm`, `Encoder.turn`, `Encoder.pull`: opening the file, one turn of a stage, and one
  pull;
* `Encoder.pulls`, `Encoder.stream`: all pulls, and the body as a stream of bytes that ends at the
  first fault.
-/

namespace PrintClient.Multipart

/-- What one pull brings; `more` tells whether another pull can bring something. -/
structure Chunk where
  bytes : List UInt8
  more : Bool
  deriving DecidableEq

/-- Where an encoder stands in the body. -/
inductive Stage where
  /-- In front of these fields. -/
  | fields (left : List Field)
  | fileHeader
  | fileBody
  | trailer
  | finished
  deriving DecidableEq

/-- How many stages are left at most that may have nothing to bring. -/
def Stage.rank : Stage → Nat
  | .fields _ => 3
  | .fileHeader => 2
  | .fileBody => 1
  | .trailer => 0
  | .finished => 0

/-- A form on its way to a body. -/
structure Encoder where
  form : Form
  stage : Stage
  /-- What the reads to come will bring. -/
  reads : List Read
  /-- The announced length of the body. -/
  contentLength : Nat

namespace Encoder

/-- The encoder of a form whose file, if it has one, was opened. -/
def start (form : Form) (opened : OpenFile) : Encoder :=
  { form, stage := .fields form.fields, reads := opened.reads
    contentLength := form.frameLength + opened.length }

/-- Opens the file of a form, if it has one. -/
def ofForm (files : FileOpener) (form : Form) : Except FileFault Encoder :=
  match form.file with
  | none => .ok (start form ⟨0, []⟩)
  | some file => (files file.path).map (start form)

/-- One turn of the stage that an encoder stands in: what it brings, unless it passes on to the next
stage. -/
def turn (e : Encoder) : Option (Except FileFault Chunk) × Encoder :=
  match e.stage with
  | .fields (field :: left) =>
    (some (.ok ⟨field.part e.form.boundary, true⟩), { e with stage := .fields left })
  | .fields [] => (none, { e with stage := .fileHeader })
  | .fileHeader =>
    match e.form.file with
    | some file => (some (.ok ⟨file.header e.form.boundary, true⟩), { e with stage := .fileBody })
    | none => (none, { e with stage := .fileBody })
  | .fileBody =>
    match e.form.file, e.reads with
    | some _, .error fault :: rest => (some (.error fault), { e with reads := rest })
    | some _, .ok (b :: block) :: rest => (some (.ok ⟨b :: block, true⟩), { e with reads := rest })
    | _, _ => (none, { e with stage := .trailer })
  | .trailer => (some (.ok ⟨e.form.trailer, false⟩), { e with stage := .finished, reads := [] })
  | .finished => (some (.ok ⟨[], false⟩), e)

/-- A stage with nothing to bring is left for a later one. -/
theorem rank_turn {e next : Encoder} (h : e.turn = (none, next)) :
    next.stage.rank < e.stage.rank := by
  cases hs : e.stage with
  | fields left =>
    cases left with
    | nil =>
      simp only [turn, hs] at h
      cases h
      simp [Stage.rank]
    | cons => simp [turn, hs] at h
  | fileHeader =>
    simp only [turn, hs] at h
    split at h
    · cases h
    · cases h
      simp [Stage.rank]
  | fileBody =>
    simp only [turn, hs] at h
    split at h
    · cases h
    · cases h
    · cases h
      simp [Stage.rank]
  | trailer => simp [turn, hs] at h
  | finished => simp [turn, hs] at h

/-- One pull: turns up to the first that brings something. -/
def pull (e : Encoder) : Except FileFault Chunk × Encoder :=
  match h : e.turn with
  | (some result, next) => (result, next)
  | (none, next) =>
    have := rank_turn h
    next.pull
termination_by e.stage.rank

/-- What at most `limit` pulls bring, up to the first fault; once nothing more follows there are
`extra` pulls. -/
def pulls : Nat → Nat → Encoder → List (Except FileFault Chunk)
  | 0, _, _ => []
  | limit + 1, extra, e =>
    match e.pull with
    | (.error fault, _) => [.error fault]
    | (.ok chunk, next) =>
      if chunk.more then .ok chunk :: pulls limit extra next
      else
        match extra with
        | 0 => [.ok chunk]
        | extra + 1 => .ok chunk :: pulls limit extra next

/-- More pulls than are needed to reach the end of the body. -/
def pullsLeft (e : Encoder) : Nat :=
  match e.stage with
  | .fields left => left.length + e.reads.length + 3
  | _ => e.reads.length + 3

/-- The chunks of the body up to the trailer or the first fault. -/
def chunks (e : Encoder) : List (Except FileFault Chunk) := e.pulls e.pullsLeft 0

/-- The bytes of a chunk, unless it is empty. -/
def item? : Except FileFault Chunk → Option (Except FileFault (List UInt8))
  | .error fault => some (.error fault)
  | .ok chunk => if chunk.bytes.isEmpty then none else some (.ok chunk.bytes)

/-- The body as a stream: no item is empty, and a fault is the last item. -/
def stream (e : Encoder) : List (Except FileFault (List UInt8)) := e.chunks.filterMap item?

end Encoder

end PrintClient.Multipart
