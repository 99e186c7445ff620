import PipedShell.Proofs.Pipe.Cursor

/-!
# The buffers take turns

Between two stages of a range the output end still leads to the buffer that the stage before wrote,
or to nothing if no stage ran yet.  Moving on makes that buffer the input and empties the other one,
so no stage reads the buffer that it writes.

* `Pipeline.movedOn` — what moving on does to a pipeline with open buffers (`advance_eq_movedOn`).
* `Pipeline.Waits` — the invariant between two stages.
* `Pipeline.turn` — the buffer that the next stage writes, unless it is the last one.
* `Pipeline.Waits.of_fills` — the invariant holds again once the stage wrote its buffer, and nothing
  is in that buffer but what it wrote (`buffer_of_fills`).
-/

namespace PipedShell

namespace Pipeline

/-! ## Moving on -/

/-- The pipeline moved on: the ends lead on, and the buffer that the output leads to is empty. -/
def movedOn (last : Bool) (pipeline : Pipeline) : Pipeline :=
  let moved := { pipeline with routing := pipeline.routing.next last }
  match moved.routing.output with
  | .buffer slot => moved.setBuffer slot (pipeline.buffer slot).emptied
  | _ => moved

variable {pipeline : Pipeline} {last : Bool}

lemma advance_eq_movedOn (h : pipeline.BuffersOpen) (last : Bool) :
    pipeline.advance last = (.ok (), pipeline.movedOn last) := by
  cases houtput : (pipeline.routing.next last).output with
  | buffer slot => simp [advance, movedOn, houtput, onBuffer, Buffer.clear_of_open (h slot)]
  | stdin | stdout | closed => simp [advance, movedOn, houtput]

lemma routing_movedOn (last : Bool) (pipeline : Pipeline) :
    (pipeline.movedOn last).routing = pipeline.routing.next last := by
  simp only [movedOn]
  split <;> simp

lemma buffer_movedOn (last : Bool) (pipeline : Pipeline) (slot : Slot) :
    (pipeline.movedOn last).buffer slot
      = if (pipeline.routing.next last).output = .buffer slot then (pipeline.buffer slot).emptied
        else pipeline.buffer slot := by
  cases houtput : (pipeline.routing.next last).output with
  | buffer written =>
      by_cases heq : slot = written
      · subst heq
        simp [movedOn, houtput]
      · simp [movedOn, houtput, buffer_setBuffer_of_ne _ heq, Ne.symm heq]
  | stdin | stdout | closed => simp [movedOn, houtput]

lemma buffersOpen_movedOn (h : pipeline.BuffersOpen) : (pipeline.movedOn last).BuffersOpen := by
  intro slot
  rw [buffer_movedOn]
  split_ifs <;> exact h slot

/-! ## Between two stages -/

/-- The buffer that the next stage writes unless it is the last one. -/
def turn (pipeline : Pipeline) : Slot :=
  match pipeline.routing.output.slot? with
  | some slot => slot.other
  | none => .first

/-- A range runs and its next stage can start: that stage reads the buffer that the output end leads
to, or the standard input if there is none. -/
structure Waits (pipeline : Pipeline) : Prop where
  opened : pipeline.routing.opened = true
  buffers_open : pipeline.BuffersOpen
  positioned : ∀ slot, pipeline.routing.output.slot? = some slot →
    (pipeline.buffer slot).Positioned
  starts : pipeline.routing.output.slot? = none → pipeline.routing.input = .stdin

/-- The next stage reads what the output end led to. -/
lemma inputSlot?_movedOn (h : pipeline.Waits) :
    (pipeline.movedOn last).inputSlot? = pipeline.routing.output.slot? := by
  have hopened := h.opened
  cases hslot : pipeline.routing.output.slot? with
  | none =>
      have hinput : pipeline.routing.input.slot? = none := by
        rw [h.starts hslot]
        rfl
      simp [inputSlot?, routing_movedOn, Routing.inputSlot?, Routing.next, hopened, hslot, hinput]
  | some slot =>
      simp [inputSlot?, routing_movedOn, Routing.inputSlot?, Routing.next, hopened, hslot]

/-- The output of the next stage: the buffer whose turn it is, or the standard output. -/
lemma output_movedOn (h : pipeline.Waits) :
    (pipeline.movedOn last).routing.output
      = if last then .stdout else .buffer pipeline.turn := by
  have hopened := h.opened
  cases last with
  | true => simp [routing_movedOn, Routing.next, hopened]
  | false =>
      cases houtput : pipeline.routing.output with
      | buffer slot =>
          simp [routing_movedOn, Routing.next, hopened, houtput, Endpoint.slot?,
            Endpoint.opposite, turn]
      | stdin | stdout | closed =>
          have hinput : pipeline.routing.input = .stdin := h.starts (by rw [houtput]; rfl)
          simp [routing_movedOn, Routing.next, hopened, houtput, hinput, Endpoint.slot?,
            Endpoint.opposite, turn]

lemma outputSlot?_movedOn (h : pipeline.Waits) :
    (pipeline.movedOn last).outputSlot? = if last then none else some pipeline.turn := by
  have hopened : (pipeline.movedOn last).routing.opened = true := by
    rw [routing_movedOn, Routing.opened_next, h.opened]
  cases last <;>
    simp [outputSlot?, Routing.outputSlot?, hopened, output_movedOn h, Endpoint.slot?]

lemma turn_ne {slot : Slot} (h : pipeline.routing.output.slot? = some slot) :
    slot ≠ pipeline.turn := by
  simpa [turn, h] using slot.other_ne.symm

lemma inputSlot?_movedOn_ne_turn (h : pipeline.Waits) :
    (pipeline.movedOn last).inputSlot? ≠ some pipeline.turn := by
  rw [inputSlot?_movedOn h]
  exact fun hslot => turn_ne hslot rfl

/-- The buffer whose turn it is was emptied, unless the next stage is the last one. -/
lemma buffer_movedOn_of_waits (h : pipeline.Waits) (last : Bool) (slot : Slot) :
    (pipeline.movedOn last).buffer slot
      = if last = false ∧ slot = pipeline.turn then (pipeline.buffer slot).emptied
        else pipeline.buffer slot := by
  have houtput : (pipeline.routing.next last).output
      = if last then .stdout else .buffer pipeline.turn := by
    rw [← routing_movedOn, output_movedOn h]
  rw [buffer_movedOn, houtput]
  cases last <;> simp [eq_comm]

/-! ## After a stage wrote -/

section Fills

variable {after : Pipeline} {text : Text}

/-- A stage that is not the last one leaves the output end at the buffer that it wrote. -/
lemma output_of_fills (h : pipeline.Waits)
    (hfills : Fills pipeline.turn text (pipeline.movedOn false) after) :
    after.routing.output = .buffer pipeline.turn := by
  rw [hfills.routing, output_movedOn h]
  rfl

/-- That buffer holds what the stage wrote, since it was emptied before. -/
lemma buffer_of_fills (h : pipeline.Waits)
    (hfills : Fills pipeline.turn text (pipeline.movedOn false) after) :
    after.buffer pipeline.turn = (pipeline.buffer pipeline.turn).emptied.append text := by
  rw [hfills.filled, buffer_movedOn_of_waits h, if_pos ⟨rfl, rfl⟩]

lemma turn_of_fills (h : pipeline.Waits)
    (hfills : Fills pipeline.turn text (pipeline.movedOn false) after) :
    after.turn = pipeline.turn.other := by
  simp only [turn, output_of_fills h hfills, Endpoint.slot?]

/-- The next stage can start after one that wrote to its buffer. -/
lemma Waits.of_fills (h : pipeline.Waits)
    (hfills : Fills pipeline.turn text (pipeline.movedOn false) after) : after.Waits where
  opened := by rw [hfills.routing, routing_movedOn, Routing.opened_next, h.opened]
  buffers_open := hfills.buffersOpen (buffersOpen_movedOn h.buffers_open)
  positioned := by
    intro slot hslot
    rw [output_of_fills h hfills] at hslot
    obtain rfl : pipeline.turn = slot := by simpa [Endpoint.slot?] using hslot
    rw [buffer_of_fills h hfills]
    exact Nat.zero_le _
  starts := by
    intro hnone
    rw [output_of_fills h hfills] at hnone
    cases hnone

end Fills

end Pipeline

end PipedShell
