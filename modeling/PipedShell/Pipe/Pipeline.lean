import PipedShell.Pipe.Buffer
import PipedShell.Pipe.Routing

/-!
# The pipeline of a session

A session has one pipeline for all the ranges it runs: the two buffers, and where the ends of the
pipe lead.  Before a stage starts, the buffer it is going to write is emptied; what an earlier
stage left there unread is of no use to anyone.

* `Pipeline` is the two buffers and the routing.
* `Pipeline.begin`, `Pipeline.advance` and `Pipeline.finish` follow the life of a range.
* `Pipeline.onBuffer` acts on one of the buffers.
-/

namespace PipedShell

/-- Two buffers and where the ends of the pipe lead. -/
structure Pipeline where
  first : Buffer := .fresh
  second : Buffer := .fresh
  routing : Routing := .idle
  deriving DecidableEq, Repr

namespace Pipeline

/-- A pipeline over buffers that are lent or not. -/
def ofLoans (first second : Option Text) : Pipeline :=
  { first := .ofLoan first, second := .ofLoan second }

/-- One of the buffers. -/
def buffer (pipeline : Pipeline) : Slot → Buffer
  | .first => pipeline.first
  | .second => pipeline.second

/-- Puts a buffer in place. -/
def setBuffer (pipeline : Pipeline) (slot : Slot) (buffer : Buffer) : Pipeline :=
  match slot with
  | .first => { pipeline with first := buffer }
  | .second => { pipeline with second := buffer }

/-- Acts on one of the buffers. -/
def onBuffer {α : Type} (slot : Slot) (act : Buffer → Attempt Buffer α) (pipeline : Pipeline) :
    Attempt Pipeline α :=
  let (result, buffer) := act (pipeline.buffer slot)
  (result, pipeline.setBuffer slot buffer)

/-- Whether a range runs. -/
def opened (pipeline : Pipeline) : Bool := pipeline.routing.opened

/-- Empties both buffers, the first one first; stops at a closed one. -/
def clearBuffers (pipeline : Pipeline) : Attempt Pipeline Unit :=
  match pipeline.onBuffer .first Buffer.clear with
  | (.ok (), cleared) => cleared.onBuffer .second Buffer.clear
  | failed => failed

/-- Opens the pipe for the first stage of a range. -/
def begin (pipeline : Pipeline) : Pipeline := { pipeline with routing := .started }

/-- Moves the ends of the pipe on to the next stage and empties the buffer it writes. -/
def advance (last : Bool) (pipeline : Pipeline) : Attempt Pipeline Unit :=
  let moved := { pipeline with routing := pipeline.routing.next last }
  match moved.routing.output with
  | .buffer slot => moved.onBuffer slot Buffer.clear
  | _ => (.ok (), moved)

/-- Closes the pipe. -/
def finish (pipeline : Pipeline) : Pipeline := { pipeline with routing := .idle }

/-- Closes the buffers that belong to the shell. -/
def closeBuffers (pipeline : Pipeline) : Pipeline :=
  { pipeline with first := pipeline.first.close, second := pipeline.second.close }

/-- The buffer that a stage reads now. -/
def inputSlot? (pipeline : Pipeline) : Option Slot := pipeline.routing.inputSlot?

/-- The buffer that a stage writes now. -/
def outputSlot? (pipeline : Pipeline) : Option Slot := pipeline.routing.outputSlot?

/-- A buffer put in place is found there. -/
theorem buffer_setBuffer (pipeline : Pipeline) (slot : Slot) (b : Buffer) :
    (pipeline.setBuffer slot b).buffer slot = b := by
  cases slot <;> rfl

/-- Putting one buffer in place leaves the other one alone. -/
theorem buffer_other_setBuffer (pipeline : Pipeline) (slot : Slot) (b : Buffer) :
    (pipeline.setBuffer slot b).buffer slot.other = pipeline.buffer slot.other := by
  cases slot <;> rfl

end Pipeline

end PipedShell
