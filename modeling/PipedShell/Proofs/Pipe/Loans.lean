import PipedShell.Proofs.Pipe.Cursor

/-!
# Whose a buffer is

A buffer belongs to the shell or is lent to it, and this never changes.  Closing is for good, and it
is done to the shell's own buffers alone.

* `Buffer.Ages`, `Pipeline.Ages` — what can become of a buffer, and of both buffers of a pipeline,
  whatever is done with them.  Everything that acts on a pipeline ages it and nothing more
  (`ages_onBuffer`, `ages_clearBuffers`, `ages_advance`, `ages_closeBuffers`).
* `Pipeline.closed_closeBuffers`, `Pipeline.closeBuffers_of_lent` — closing closes every buffer of
  the shell's own, and does nothing if there is none.
* `Pipeline.clearBuffers_of_closed` — once a buffer is closed, the buffers cannot be emptied.
-/

namespace PipedShell

namespace Buffer

/-- What can become of a buffer in the course of time. -/
structure Ages (before after : Buffer) : Prop where
  owned_eq : after.owned = before.owned
  stays_closed : before.closed = true → after.closed = true
  lent_spared : before.owned = false → after.closed = before.closed

namespace Ages

variable {before middle after : Buffer}

lemma of_eq (howned : after.owned = before.owned) (hclosed : after.closed = before.closed) :
    before.Ages after where
  owned_eq := howned
  stays_closed := hclosed.trans
  lent_spared := fun _ => hclosed

lemma refl (buffer : Buffer) : buffer.Ages buffer := .of_eq rfl rfl

lemma trans (h : before.Ages middle) (h' : middle.Ages after) : before.Ages after where
  owned_eq := h'.owned_eq.trans h.owned_eq
  stays_closed := fun hclosed => h'.stays_closed (h.stays_closed hclosed)
  lent_spared := fun hlent =>
    (h'.lent_spared (h.owned_eq.trans hlent)).trans (h.lent_spared hlent)

end Ages

variable (buffer : Buffer)

lemma ages_write (text : Text) : buffer.Ages (buffer.write text).2 := by
  simp only [write, whenOpen]
  split_ifs <;> exact .of_eq rfl rfl

lemma ages_read (how : Reading) : buffer.Ages (buffer.read how).2 := by
  simp only [read]
  split_ifs <;> exact .of_eq rfl rfl

lemma ages_clear : buffer.Ages buffer.clear.2 := by
  simp only [clear, whenOpen]
  split_ifs <;> exact .of_eq rfl rfl

lemma ages_close : buffer.Ages buffer.close := by
  cases howned : buffer.owned with
  | false =>
      rw [close_of_not_owned howned]
      exact .refl buffer
  | true =>
      rw [close, if_pos howned]
      refine ⟨rfl, fun _ => rfl, fun hlent => ?_⟩
      rw [howned] at hlent
      cases hlent

lemma closed_close {buffer : Buffer} (h : buffer.owned = true) : buffer.close.closed = true := by
  rw [close, if_pos h]

end Buffer

namespace Pipeline

/-- What can become of the buffers of a pipeline in the course of time. -/
def Ages (before after : Pipeline) : Prop :=
  ∀ slot, (before.buffer slot).Ages (after.buffer slot)

namespace Ages

lemma refl (pipeline : Pipeline) : pipeline.Ages pipeline := fun _ => .refl _

lemma of_eq {before after : Pipeline} (h : after = before) : before.Ages after := h ▸ .refl _

lemma trans {before middle after : Pipeline} (h : before.Ages middle) (h' : middle.Ages after) :
    before.Ages after := fun slot => (h slot).trans (h' slot)

end Ages

variable (pipeline : Pipeline)

lemma ages_onBuffer {α : Type} (slot : Slot) {act : Buffer → Attempt Buffer α}
    (h : ∀ buffer : Buffer, buffer.Ages (act buffer).2) :
    pipeline.Ages (pipeline.onBuffer slot act).2 := by
  intro other
  by_cases heq : other = slot
  · subst heq
    simp only [onBuffer, buffer_setBuffer_self]
    exact h _
  · simp only [onBuffer, buffer_setBuffer_of_ne pipeline heq]
    exact .refl _

lemma ages_withRouting (routing : Routing) : pipeline.Ages { pipeline with routing } := by
  intro slot
  rw [buffer_withRouting]
  exact .refl _

lemma ages_clearBuffers : pipeline.Ages pipeline.clearBuffers.2 := by
  have hfirst := pipeline.ages_onBuffer .first Buffer.ages_clear
  rw [clearBuffers]
  split
  · next cleared heq =>
      rw [heq] at hfirst
      exact hfirst.trans (cleared.ages_onBuffer .second Buffer.ages_clear)
  · exact hfirst

lemma ages_advance (last : Bool) : pipeline.Ages (pipeline.advance last).2 := by
  have hmoved := pipeline.ages_withRouting (pipeline.routing.next last)
  simp only [advance]
  split
  · exact hmoved.trans (ages_onBuffer _ _ Buffer.ages_clear)
  · exact hmoved

/-! ## Closing -/

lemma buffer_closeBuffers (slot : Slot) :
    pipeline.closeBuffers.buffer slot = (pipeline.buffer slot).close := by
  cases slot <;> rfl

lemma ages_closeBuffers : pipeline.Ages pipeline.closeBuffers := by
  intro slot
  rw [buffer_closeBuffers]
  exact Buffer.ages_close _

variable {pipeline}

lemma closed_closeBuffers {slot : Slot} (h : (pipeline.buffer slot).owned = true) :
    (pipeline.closeBuffers.buffer slot).closed = true := by
  rw [buffer_closeBuffers]
  exact Buffer.closed_close h

/-- With lent buffers only, nothing is closed. -/
lemma closeBuffers_of_lent (h : ∀ slot, (pipeline.buffer slot).owned = false) :
    pipeline.closeBuffers = pipeline := by
  have hfirst : pipeline.first.close = pipeline.first := Buffer.close_of_not_owned (h .first)
  have hsecond : pipeline.second.close = pipeline.second := Buffer.close_of_not_owned (h .second)
  rw [closeBuffers, hfirst, hsecond]

/-- The pipeline after its buffers could not be emptied.  They are taken in turn, so the first one
is empty by then if it is open. -/
def halfEmptied (pipeline : Pipeline) : Pipeline :=
  if pipeline.first.closed then pipeline else { pipeline with first := pipeline.first.emptied }

@[simp] lemma routing_halfEmptied (pipeline : Pipeline) :
    pipeline.halfEmptied.routing = pipeline.routing := by
  rw [halfEmptied]
  split_ifs <;> rfl

/-- Emptying the buffers fails if one of them is closed. -/
lemma clearBuffers_of_closed {slot : Slot} (h : (pipeline.buffer slot).closed = true) :
    pipeline.clearBuffers = (.error (.defect .closedStream), pipeline.halfEmptied) := by
  cases hfirst : pipeline.first.closed with
  | true =>
      simp [clearBuffers, onBuffer, buffer, setBuffer, Buffer.clear_of_closed hfirst, halfEmptied,
        hfirst]
  | false =>
      have hsecond : pipeline.second.closed = true := by
        cases slot with
        | first => exact absurd (h.symm.trans hfirst) (by decide)
        | second => exact h
      simp [clearBuffers, onBuffer, buffer, setBuffer, Buffer.clear_of_open hfirst,
        Buffer.clear_of_closed hsecond, halfEmptied, hfirst]

end Pipeline

end PipedShell
