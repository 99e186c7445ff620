import Mathlib.Tactic.Common
import PipedShell.Pipe.Pipeline

/-!
# The two cursors of a buffer

A buffer is written at its end and read from a position of its own.  This file has the laws that
make it a pipe, for a buffer that is open.

**Reading.**  `Buffer.source` is what the reader sees.  Reading moves it on exactly as reading a
source does (`read_of_open`, `source_moveTo`), because what is unread after a read is always the end
of what was unread before (`unread_read_suffix`).

**Writing.**  `Buffer.append` is the effect of a write; `clear_of_open` empties the buffer and sets
the reader back.

**Two buffers.**  What is done to one of the buffers of a pipeline leaves the other one alone, and
the routing too.
-/

namespace PipedShell

/-! ## What is unread after a read -/

lemma Text.cutLine_suffix (t : Text) : t.cutLine.2 <:+ t := ⟨t.cutLine.1, t.cutLine_append⟩

namespace Source

lemma unread_fetch_suffix (source : Source) : source.fetch.2.unread <:+ source.unread := by
  rw [fetch]
  split_ifs
  · exact Text.cutLine_suffix _
  · exact List.suffix_rfl

lemma unread_readWord_suffix (source : Source) : source.readWord.2.unread <:+ source.unread := by
  have hcut : (Text.trimLeft source.unread).cutLine.2 <:+ source.unread :=
    (Text.cutLine_suffix _).trans (List.dropWhile_suffix _)
  rw [readWord]
  split
  · exact List.suffix_rfl
  · dsimp only
    split <;> exact hcut

/-- What is unread after a read is the end of what was unread before. -/
lemma unread_read_suffix (how : Reading) (source : Source) :
    (source.read how).2.unread <:+ source.unread := by
  cases how with
  | line => exact unread_fetch_suffix source
  | word => exact unread_readWord_suffix source
  | all => exact List.nil_suffix

end Source

namespace Buffer

/-! ## One buffer -/

/-- The buffer with a text written to it. -/
def append (text : Text) (buffer : Buffer) : Buffer :=
  { buffer with stored := buffer.stored ++ text }

/-- The buffer with nothing in it and the reader at its start. -/
def emptied (buffer : Buffer) : Buffer := { buffer with stored := [], position := 0, pending := [] }

/-- The position of the reader is one of the stored text. -/
def Positioned (buffer : Buffer) : Prop := buffer.position ≤ buffer.stored.length

lemma write_of_open {buffer : Buffer} (h : buffer.closed = false) (text : Text) :
    buffer.write text = (.ok text.length, buffer.append text) := by
  simp [write, whenOpen, h, append]

lemma clear_of_open {buffer : Buffer} (h : buffer.closed = false) :
    buffer.clear = (.ok (), buffer.emptied) := by
  simp [clear, whenOpen, h, emptied]

lemma clear_of_closed {buffer : Buffer} (h : buffer.closed = true) :
    buffer.clear = (.error (.defect .closedStream), buffer) := by
  simp [clear, whenOpen, h]

lemma read_of_open {buffer : Buffer} (h : buffer.closed = false) (how : Reading) :
    buffer.read how
      = (.ok (buffer.source.read how).1, buffer.moveTo (buffer.source.read how).2) := by
  simp [read, h]

lemma closed_write (text : Text) (buffer : Buffer) :
    (buffer.write text).2.closed = buffer.closed := by
  simp only [write, whenOpen]
  split_ifs <;> rfl

lemma closed_read (how : Reading) (buffer : Buffer) :
    (buffer.read how).2.closed = buffer.closed := by
  simp only [read]
  split_ifs <;> rfl

lemma closed_clear (buffer : Buffer) : buffer.clear.2.closed = buffer.closed := by
  simp only [clear, whenOpen]
  split_ifs <;> rfl

lemma closed_fetchLine (buffer : Buffer) : buffer.fetchLine.2.closed = buffer.closed := by
  simp only [fetchLine, whenOpen]
  split_ifs <;> rfl

lemma closed_contents (buffer : Buffer) : buffer.contents.2.closed = buffer.closed := by
  simp only [contents, whenOpen]
  split_ifs <;> rfl

/-- The reader is where it was moved to, as long as that is further on. -/
lemma source_moveTo {buffer : Buffer} {source : Source} (h : source.unread <:+ buffer.unread) :
    (buffer.moveTo source).source = source := by
  have hstored : source.unread <:+ buffer.stored := h.trans (List.drop_suffix _ _)
  have hdrop : buffer.stored.drop (buffer.stored.length - source.unread.length)
      = source.unread := (List.suffix_iff_eq_drop.1 hstored).symm
  simp only [Buffer.source, unread, moveTo, hdrop]

lemma moveTo_source {buffer : Buffer} (h : buffer.Positioned) :
    buffer.moveTo buffer.source = buffer := by
  have hposition : buffer.stored.length - (buffer.stored.length - buffer.position)
      = buffer.position := Nat.sub_sub_self h
  simp [moveTo, Buffer.source, unread, hposition]

lemma moveTo_moveTo (buffer : Buffer) (a b : Source) :
    (buffer.moveTo a).moveTo b = buffer.moveTo b := rfl

lemma append_append (buffer : Buffer) (a b : Text) :
    (buffer.append a).append b = buffer.append (a ++ b) := by
  simp [append]

lemma append_nil (buffer : Buffer) : buffer.append [] = buffer := by
  simp [append]

lemma positioned_moveTo (buffer : Buffer) (source : Source) :
    (buffer.moveTo source).Positioned := Nat.sub_le _ _

lemma source_append_emptied (buffer : Buffer) (text : Text) :
    (buffer.emptied.append text).source = .ofText text := by
  simp [Buffer.source, unread, append, emptied, Source.ofText]

end Buffer

/-! ## Two buffers -/

lemma Slot.other_ne (slot : Slot) : slot.other ≠ slot := by
  cases slot <;> simp [Slot.other]

lemma Slot.eq_other_of_ne {a b : Slot} (h : b ≠ a) : b = a.other := by
  cases a <;> cases b <;> simp_all [Slot.other]

namespace Pipeline

@[simp] lemma routing_setBuffer (pipeline : Pipeline) (slot : Slot) (b : Buffer) :
    (pipeline.setBuffer slot b).routing = pipeline.routing := by
  cases slot <;> rfl

@[simp] lemma buffer_setBuffer_self (pipeline : Pipeline) (slot : Slot) (b : Buffer) :
    (pipeline.setBuffer slot b).buffer slot = b := buffer_setBuffer pipeline slot b

lemma buffer_setBuffer_of_ne (pipeline : Pipeline) {slot other : Slot} (h : other ≠ slot)
    (b : Buffer) : (pipeline.setBuffer slot b).buffer other = pipeline.buffer other := by
  rw [Slot.eq_other_of_ne h]
  exact buffer_other_setBuffer pipeline slot b

@[simp] lemma setBuffer_setBuffer (pipeline : Pipeline) (slot : Slot) (a b : Buffer) :
    (pipeline.setBuffer slot a).setBuffer slot b = pipeline.setBuffer slot b := by
  cases slot <;> rfl

lemma setBuffer_comm (pipeline : Pipeline) {slot other : Slot} (h : other ≠ slot) (a b : Buffer) :
    (pipeline.setBuffer slot a).setBuffer other b
      = (pipeline.setBuffer other b).setBuffer slot a := by
  rw [Slot.eq_other_of_ne h]
  cases slot <;> rfl

@[simp] lemma setBuffer_buffer (pipeline : Pipeline) (slot : Slot) :
    pipeline.setBuffer slot (pipeline.buffer slot) = pipeline := by
  cases slot <;> rfl

@[simp] lemma buffer_withRouting (pipeline : Pipeline) (routing : Routing) (slot : Slot) :
    buffer { pipeline with routing } slot = pipeline.buffer slot := by
  cases slot <;> rfl

/-- Both buffers are open. -/
def BuffersOpen (pipeline : Pipeline) : Prop := ∀ slot, (pipeline.buffer slot).closed = false

/-- The pipeline with both buffers emptied. -/
def emptied (pipeline : Pipeline) : Pipeline :=
  { pipeline with first := pipeline.first.emptied, second := pipeline.second.emptied }

lemma clearBuffers_of_open {pipeline : Pipeline} (h : pipeline.BuffersOpen) :
    pipeline.clearBuffers = (.ok (), pipeline.emptied) := by
  have hfirst : pipeline.first.closed = false := h .first
  have hsecond : pipeline.second.closed = false := h .second
  simp [clearBuffers, onBuffer, buffer, setBuffer, Buffer.clear_of_open, hfirst, hsecond, emptied]

/-- Emptying the buffers succeeds on open buffers only. -/
lemma buffersOpen_of_clearBuffers {pipeline cleared : Pipeline}
    (h : pipeline.clearBuffers = (.ok (), cleared)) : pipeline.BuffersOpen := by
  cases hfirst : pipeline.first.closed with
  | true => simp [clearBuffers, onBuffer, buffer, Buffer.clear_of_closed hfirst] at h
  | false =>
      cases hsecond : pipeline.second.closed with
      | true =>
          simp [clearBuffers, onBuffer, buffer, setBuffer, Buffer.clear_of_open hfirst,
            Buffer.clear_of_closed hsecond] at h
      | false =>
          intro slot
          cases slot with
          | first => exact hfirst
          | second => exact hsecond

lemma routing_clearBuffers (pipeline : Pipeline) :
    pipeline.clearBuffers.2.routing = pipeline.routing := by
  simp only [clearBuffers, onBuffer]
  split
  · next heq =>
      rw [← (Prod.mk.inj heq).2]
      simp
  · simp

/-! ## Pipelines that differ in their texts only -/

/-- The ends lead to the same places, and the same buffers are open. -/
structure Alike (before after : Pipeline) : Prop where
  routing : after.routing = before.routing
  closed : ∀ slot, (after.buffer slot).closed = (before.buffer slot).closed

lemma Alike.refl (pipeline : Pipeline) : Alike pipeline pipeline := ⟨rfl, fun _ => rfl⟩

lemma alike_setBuffer {pipeline : Pipeline} {slot : Slot} {b : Buffer}
    (h : b.closed = (pipeline.buffer slot).closed) :
    Alike pipeline (pipeline.setBuffer slot b) where
  routing := routing_setBuffer pipeline slot b
  closed := by
    intro other
    by_cases heq : other = slot
    · subst heq
      rw [buffer_setBuffer_self, h]
    · rw [buffer_setBuffer_of_ne pipeline heq]

lemma Alike.buffersOpen {before after : Pipeline} (h : Alike before after)
    (hopen : before.BuffersOpen) : after.BuffersOpen :=
  fun slot => (h.closed slot).trans (hopen slot)

/-- What writing a text to one of the buffers does to a pipeline, apart from the other buffer. -/
structure Fills (slot : Slot) (text : Text) (before after : Pipeline) : Prop
    extends Alike before after where
  filled : after.buffer slot = (before.buffer slot).append text

lemma Fills.refl (slot : Slot) (pipeline : Pipeline) : Fills slot [] pipeline pipeline where
  toAlike := .refl pipeline
  filled := (Buffer.append_nil _).symm

lemma Fills.trans {slot : Slot} {a b : Text} {first second third : Pipeline}
    (h : Fills slot a first second) (h' : Fills slot b second third) :
    Fills slot (a ++ b) first third where
  routing := h'.routing.trans h.routing
  closed := fun other => (h'.closed other).trans (h.closed other)
  filled := by rw [h'.filled, h.filled, Buffer.append_append]

end Pipeline

end PipedShell
