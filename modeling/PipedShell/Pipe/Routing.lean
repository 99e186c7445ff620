import PipedShell.Text

/-!
# Where the ends of a pipe lead

While a range runs, its stages are connected by two buffers that take turns: a stage writes to the
buffer that does not hold its input, and the next stage reads exactly that one.  The first stage
reads the standard input and the last one writes to the standard output.

* `Slot` names the two buffers, `Endpoint` every place that an end can lead to.
* `Routing` is where both ends lead now, and whether the pipe is open at all.
* `Routing.started`, `Routing.next` and `Routing.idle` are its life: opened, moved on from
  stage to stage, closed.
-/

namespace PipedShell

/-- The two buffers. -/
inductive Slot where
  | first
  | second
  deriving DecidableEq, Repr

/-- The other one of the two buffers. -/
def Slot.other : Slot → Slot
  | first => second
  | second => first

/-- The places that an end of the pipe can lead to. -/
inductive Endpoint where
  /-- One of the two buffers. -/
  | buffer (slot : Slot)
  /-- The standard input of the shell. -/
  | stdin
  /-- The standard output of the shell. -/
  | stdout
  /-- Nowhere. -/
  | closed
  deriving DecidableEq, Repr

namespace Endpoint

/-- The buffer that an end leads to. -/
def slot? : Endpoint → Option Slot
  | buffer slot => some slot
  | _ => none

/-- The buffer to write to for a stage that reads here. -/
def opposite : Endpoint → Endpoint
  | buffer slot => buffer slot.other
  | _ => buffer .first

end Endpoint

/-- Where the two ends of the pipe lead. -/
structure Routing where
  input : Endpoint
  output : Endpoint
  opened : Bool
  deriving DecidableEq, Repr

namespace Routing

/-- No range runs. -/
def idle : Routing := ⟨.stdin, .closed, false⟩

/-- A range is about to start its first stage. -/
def started : Routing := ⟨.stdin, .closed, true⟩

/-- The ends for the next stage: it reads what the stage before wrote, if that was a buffer, and
writes to the other buffer or, as the last one, to the standard output.  A pipe that is not open
stays as it is. -/
def next (routing : Routing) (last : Bool) : Routing :=
  if routing.opened then
    let input := if routing.output.slot?.isSome then routing.output else routing.input
    ⟨input, if last then .stdout else input.opposite, true⟩
  else routing

/-- The buffer that a stage reads now. -/
def inputSlot? (routing : Routing) : Option Slot :=
  if routing.opened then routing.input.slot? else none

/-- The buffer that a stage writes now. -/
def outputSlot? (routing : Routing) : Option Slot :=
  if routing.opened then routing.output.slot? else none

/-- Moving on does not open a pipe and does not close one. -/
theorem opened_next (routing : Routing) (last : Bool) :
    (routing.next last).opened = routing.opened := by
  unfold next
  split <;> simp_all

end Routing

end PipedShell
