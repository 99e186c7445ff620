import PipedShell.Proofs.Pipe.Cursor
import PipedShell.Session

/-!
# The two ends that a command has

A command reads and writes through the session and never learns where the ends of its stage lead.
This file describes a session by what the command can tell: what it would read (`Session.input`),
and what reading (`Session.readTo`), writing (`Session.emit`) and complaining (`Session.complain`)
do.  The three effects touch different parts of the session, so they can be put in any order and
repeated ones joined.

* `Session.Serves` — what is written is taken by something, and the buffers are open.
  `write_of_serves`, `read_of_serves`: then writing and reading succeed and have these effects.
* `Session.Ends` — the ends are in working order: besides, no buffer is read and written at once.
-/

namespace PipedShell

namespace Pipeline

@[simp] lemma inputSlot?_setBuffer (pipeline : Pipeline) (slot : Slot) (b : Buffer) :
    (pipeline.setBuffer slot b).inputSlot? = pipeline.inputSlot? := by
  simp [inputSlot?]

@[simp] lemma outputSlot?_setBuffer (pipeline : Pipeline) (slot : Slot) (b : Buffer) :
    (pipeline.setBuffer slot b).outputSlot? = pipeline.outputSlot? := by
  simp [outputSlot?]

lemma BuffersOpen.setBuffer {pipeline : Pipeline} (h : pipeline.BuffersOpen) (slot : Slot)
    {b : Buffer} (hb : b.closed = false) : (pipeline.setBuffer slot b).BuffersOpen := by
  intro other
  by_cases heq : other = slot
  · subst heq
    simpa using hb
  · rw [buffer_setBuffer_of_ne pipeline heq]
    exact h other

end Pipeline

namespace Session

/-! ## What a command reads and does -/

/-- What a command reads from. -/
def input (session : Session) : Source :=
  match session.pipeline.inputSlot? with
  | some slot => (session.pipeline.buffer slot).source
  | none => session.stdin

/-- The session after its input was read on to `source`. -/
def readTo (source : Source) (session : Session) : Session :=
  match session.pipeline.inputSlot? with
  | some slot =>
    { session with
      pipeline := session.pipeline.setBuffer slot
        ((session.pipeline.buffer slot).moveTo source) }
  | none => { session with stdin := source }

/-- The session after a text was written to its output. -/
def emit (text : Text) (session : Session) : Session :=
  match session.pipeline.outputSlot? with
  | some slot =>
    { session with
      pipeline := session.pipeline.setBuffer slot ((session.pipeline.buffer slot).append text) }
  | none => { session with stdout := session.stdout ++ text }

/-- The session after texts were written to its error stream. -/
def complain (texts : List Text) (session : Session) : Session :=
  if session.stderrAttached then
    { session with errors := session.errors ++ texts.map ErrorEntry.text }
  else session

/-- What is written is taken by something, and what is read is there to be read. -/
structure Serves (session : Session) : Prop where
  buffers_open : session.pipeline.BuffersOpen
  /-- What is not written to a buffer is taken by the standard output. -/
  taken : session.pipeline.outputSlot? = none →
    session.pipeline.routing.output ≠ .closed ∧ session.stdoutAttached = true

/-- The ends of the stage are in working order. -/
structure Ends (session : Session) : Prop where
  buffers_open : session.pipeline.BuffersOpen
  /-- No buffer is read and written by the same stage. -/
  apart : ∀ slot, session.pipeline.inputSlot? = some slot →
    session.pipeline.outputSlot? ≠ some slot
  positioned : ∀ slot, session.pipeline.inputSlot? = some slot →
    (session.pipeline.buffer slot).Positioned
  /-- What is not written to a buffer is taken by the standard output. -/
  taken : session.pipeline.outputSlot? = none →
    session.pipeline.routing.output ≠ .closed ∧ session.stdoutAttached = true

variable {session : Session}

lemma Ends.serves (h : session.Ends) : session.Serves := ⟨h.buffers_open, h.taken⟩

lemma write_of_serves (h : session.Serves) (text : Text) :
    session.write text = (.ok (), session.emit text) := by
  cases hslot : session.pipeline.outputSlot? with
  | some slot =>
      have hopen := h.buffers_open slot
      simp [write, emit, hslot, onPipeline, Pipeline.onBuffer, Buffer.write_of_open hopen,
        Except.map]
  | none =>
      obtain ⟨houtput, hattached⟩ := h.taken hslot
      have hclosed : (session.pipeline.routing.output == Endpoint.closed) = false :=
        beq_eq_false_iff_ne.2 houtput
      simp [write, emit, hslot, hclosed, hattached]

lemma read_of_serves (h : session.Serves) (how : Reading) :
    session.read how
      = (.ok (session.input.read how).1, session.readTo (session.input.read how).2) := by
  cases hslot : session.pipeline.inputSlot? with
  | some slot =>
      have hopen := h.buffers_open slot
      simp [read, input, readTo, hslot, onPipeline, Pipeline.onBuffer,
        Buffer.read_of_open hopen]
  | none => simp [read, input, readTo, hslot]

lemma write_of_ends (h : session.Ends) (text : Text) :
    session.write text = (.ok (), session.emit text) := write_of_serves h.serves text

lemma read_of_ends (h : session.Ends) (how : Reading) :
    session.read how
      = (.ok (session.input.read how).1, session.readTo (session.input.read how).2) :=
  read_of_serves h.serves how

/-! ## The effects do not disturb each other -/

@[simp] lemma outputSlot?_readTo (source : Source) (session : Session) :
    (session.readTo source).pipeline.outputSlot? = session.pipeline.outputSlot? := by
  rw [readTo]
  split <;> simp

@[simp] lemma routing_emit (text : Text) (session : Session) :
    (session.emit text).pipeline.routing = session.pipeline.routing := by
  rw [emit]
  split <;> simp

@[simp] lemma routing_readTo (source : Source) (session : Session) :
    (session.readTo source).pipeline.routing = session.pipeline.routing := by
  rw [readTo]
  split <;> simp

@[simp] lemma pipeline_writeError (text : Text) (session : Session) :
    (session.writeError text).pipeline = session.pipeline := by
  rw [writeError]
  split_ifs <;> rfl

@[simp] lemma pipeline_complain (texts : List Text) (session : Session) :
    (session.complain texts).pipeline = session.pipeline := by
  rw [complain]
  split <;> rfl

@[simp] lemma input_complain (texts : List Text) (session : Session) :
    (session.complain texts).input = session.input := by
  rw [complain]
  split <;> rfl

lemma input_emit (h : session.Ends) (text : Text) : (session.emit text).input = session.input := by
  cases hin : session.pipeline.inputSlot? with
  | none => cases hout : session.pipeline.outputSlot? <;> simp [input, emit, hin, hout]
  | some slot =>
      cases hout : session.pipeline.outputSlot? with
      | none => simp [input, emit, hin, hout]
      | some other =>
          have hne : slot ≠ other := by
            rintro rfl
            exact h.apart slot hin hout
          simp [input, emit, hin, hout, Pipeline.buffer_setBuffer_of_ne _ hne]

/-- The input is at `source` after it was read on to it. -/
lemma input_readTo {source : Source} (h : source.unread <:+ session.input.unread) :
    (session.readTo source).input = source := by
  cases hin : session.pipeline.inputSlot? with
  | none => simp [input, readTo, hin]
  | some slot =>
      have hunread : source.unread <:+ (session.pipeline.buffer slot).unread := by
        simpa [input, hin, Buffer.source] using h
      simp [input, readTo, hin, Buffer.source_moveTo hunread]

lemma readTo_input (h : session.Ends) : session.readTo session.input = session := by
  cases hin : session.pipeline.inputSlot? with
  | none => simp [input, readTo, hin]
  | some slot => simp [input, readTo, hin, Buffer.moveTo_source (h.positioned slot hin)]

lemma readTo_readTo (a b : Source) (session : Session) :
    (session.readTo a).readTo b = session.readTo b := by
  cases hin : session.pipeline.inputSlot? <;> simp [readTo, hin, Buffer.moveTo_moveTo]

lemma emit_nil (session : Session) : session.emit [] = session := by
  cases hout : session.pipeline.outputSlot? <;> simp [emit, hout, Buffer.append_nil]

lemma emit_emit (a b : Text) (session : Session) :
    (session.emit a).emit b = session.emit (a ++ b) := by
  cases hout : session.pipeline.outputSlot? <;> simp [emit, hout, Buffer.append_append]

/-- Reading and writing go to different places. -/
lemma readTo_emit (h : session.Ends) (source : Source) (text : Text) :
    (session.emit text).readTo source = (session.readTo source).emit text := by
  cases hin : session.pipeline.inputSlot? with
  | none => cases hout : session.pipeline.outputSlot? <;> simp [readTo, emit, hin, hout]
  | some slot =>
      cases hout : session.pipeline.outputSlot? with
      | none => simp [readTo, emit, hin, hout]
      | some other =>
          have hne : slot ≠ other := by
            rintro rfl
            exact h.apart slot hin hout
          simp [readTo, emit, hin, hout, Pipeline.buffer_setBuffer_of_ne _ hne,
            Pipeline.buffer_setBuffer_of_ne _ hne.symm, Pipeline.setBuffer_comm _ hne]

lemma complain_nil (session : Session) : session.complain [] = session := by
  simp [complain]

lemma complain_complain (a b : List Text) (session : Session) :
    (session.complain a).complain b = session.complain (a ++ b) := by
  by_cases hattached : session.stderrAttached <;> simp [complain, hattached]

lemma readTo_complain (source : Source) (texts : List Text) (session : Session) :
    (session.complain texts).readTo source = (session.readTo source).complain texts := by
  by_cases hattached : session.stderrAttached <;>
    cases hin : session.pipeline.inputSlot? <;> simp [complain, readTo, hattached, hin]

lemma emit_complain (text : Text) (texts : List Text) (session : Session) :
    (session.complain texts).emit text = (session.emit text).complain texts := by
  by_cases hattached : session.stderrAttached <;>
    cases hout : session.pipeline.outputSlot? <;> simp [complain, emit, hattached, hout]

/-! ## The ends stay in working order -/

lemma Ends.complain (h : session.Ends) (texts : List Text) : (session.complain texts).Ends := by
  by_cases hattached : session.stderrAttached
  · simp only [Session.complain, hattached, if_true]
    exact ⟨h.buffers_open, h.apart, h.positioned, h.taken⟩
  · simpa [Session.complain, hattached] using h

lemma Ends.emit (h : session.Ends) (text : Text) : (session.emit text).Ends := by
  cases hout : session.pipeline.outputSlot? with
  | none =>
      simp only [Session.emit, hout]
      exact ⟨h.buffers_open, h.apart, h.positioned, h.taken⟩
  | some other =>
      simp only [Session.emit, hout]
      refine ⟨h.buffers_open.setBuffer other (h.buffers_open other), ?_, ?_, ?_⟩
      · simpa using h.apart
      · intro slot hin
        have hin' : session.pipeline.inputSlot? = some slot := by simpa using hin
        have hne : slot ≠ other := by
          rintro rfl
          exact h.apart slot hin' hout
        simpa [Pipeline.buffer_setBuffer_of_ne _ hne] using h.positioned slot hin'
      · simp [hout]

lemma Ends.readTo (h : session.Ends) (source : Source) : (session.readTo source).Ends := by
  cases hin : session.pipeline.inputSlot? with
  | none =>
      simp only [Session.readTo, hin]
      exact ⟨h.buffers_open, h.apart, h.positioned, h.taken⟩
  | some slot =>
      simp only [Session.readTo, hin]
      refine ⟨h.buffers_open.setBuffer slot (h.buffers_open slot), ?_, ?_, ?_⟩
      · simpa using h.apart
      · intro other hother
        have heq : other = slot := by simpa [hin] using hother.symm
        subst heq
        simpa using Buffer.positioned_moveTo (session.pipeline.buffer other) source
      · simpa using h.taken

lemma Ends.log (h : session.Ends) (record : Record) : (session.log record).Ends :=
  ⟨h.buffers_open, h.apart, h.positioned, h.taken⟩

end Session

end PipedShell
