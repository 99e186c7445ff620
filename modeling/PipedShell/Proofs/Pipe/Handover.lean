import PipedShell.Proofs.Pipe.Turns

/-!
# What one stage leaves for the next

The ends of a pipe move over two buffers, and every move empties the buffer that is written next.
This file follows a pipeline through any use of its ends: opened, moved on, closed, written to at
the output end and read at the input end, in any order, opened again without being closed and moved
on behind the last stage too.

* `Buffer.Offers` — a buffer with a text in it of which nothing was read.
* `Pipeline.Conveys` — the pipelines that such use leads to, with the texts that were written since
  the ends were last moved.  `Pipeline.Conveys.ready` is what all of them have in common.
* **`Pipeline.advance_hands_over`** — moving on hands over exactly those texts to the next reader,
  and an empty buffer to the next writer.
-/

namespace PipedShell

/-! ## The ends -/

lemma Endpoint.opposite_ne (endpoint : Endpoint) : endpoint.opposite ≠ endpoint := by
  cases endpoint with
  | buffer slot => simpa [Endpoint.opposite] using slot.other_ne
  | stdin | stdout | closed => simp [Endpoint.opposite]

namespace Routing

variable {routing : Routing} {slot : Slot} {last : Bool}

lemma outputSlot?_eq_some_iff :
    routing.outputSlot? = some slot ↔ routing.opened = true ∧ routing.output = .buffer slot := by
  cases hopened : routing.opened <;> cases houtput : routing.output <;>
    simp [outputSlot?, hopened, houtput, Endpoint.slot?]

lemma inputSlot?_eq_some_iff :
    routing.inputSlot? = some slot ↔ routing.opened = true ∧ routing.input = .buffer slot := by
  cases hopened : routing.opened <;> cases hinput : routing.input <;>
    simp [inputSlot?, hopened, hinput, Endpoint.slot?]

/-- The next stage reads where the one before wrote. -/
lemma inputSlot?_next (h : routing.outputSlot? = some slot) :
    (routing.next last).inputSlot? = some slot := by
  obtain ⟨hopened, houtput⟩ := outputSlot?_eq_some_iff.1 h
  simp [next, inputSlot?, hopened, houtput, Endpoint.slot?]

/-- It does not write where it reads: the output leads to the standard output, or opposite to the
input. -/
lemma outputSlot?_next_ne (h : (routing.next last).inputSlot? = some slot) :
    (routing.next last).outputSlot? ≠ some slot := by
  obtain ⟨hopened, hinput⟩ := inputSlot?_eq_some_iff.1 h
  rw [opened_next] at hopened
  have houtput : (routing.next last).output
      = if last then .stdout else (routing.next last).input.opposite := by
    simp [next, hopened]
  rw [Ne, outputSlot?_eq_some_iff, houtput, ← hinput]
  rintro ⟨-, hsame⟩
  cases last with
  | true => simp [hinput] at hsame
  | false => exact Endpoint.opposite_ne _ hsame

end Routing

namespace Pipeline

variable {pipeline : Pipeline} {slot : Slot} {last : Bool}

/-! ## The buffers behind the ends -/

/-- The buffer that is read next keeps what it holds. -/
lemma buffer_movedOn_of_input (h : (pipeline.movedOn last).inputSlot? = some slot) :
    (pipeline.movedOn last).buffer slot = pipeline.buffer slot := by
  rw [inputSlot?, routing_movedOn] at h
  rw [buffer_movedOn, if_neg]
  intro houtput
  have hopened := (Routing.inputSlot?_eq_some_iff.1 h).1
  exact Routing.outputSlot?_next_ne h (Routing.outputSlot?_eq_some_iff.2 ⟨hopened, houtput⟩)

/-- The buffer that is written next holds nothing. -/
lemma buffer_movedOn_of_output (h : (pipeline.movedOn last).outputSlot? = some slot) :
    (pipeline.movedOn last).buffer slot = (pipeline.buffer slot).emptied := by
  rw [outputSlot?, routing_movedOn] at h
  rw [buffer_movedOn, if_pos (Routing.outputSlot?_eq_some_iff.1 h).2]

end Pipeline

/-! ## Unread texts -/

namespace Buffer

variable {buffer : Buffer} {text : Text}

/-- The buffer holds a text, its reader is at the start of it and holds nothing back. -/
structure Offers (text : Text) (buffer : Buffer) : Prop where
  stored : buffer.stored = text
  position : buffer.position = 0
  pending : buffer.pending = []

lemma offers_emptied (buffer : Buffer) : buffer.emptied.Offers [] := ⟨rfl, rfl, rfl⟩

lemma Offers.append (h : buffer.Offers text) (more : Text) :
    (buffer.append more).Offers (text ++ more) where
  stored := congrArg (· ++ more) h.stored
  position := h.position
  pending := h.pending

end Buffer

namespace Pipeline

variable {pipeline after : Pipeline} {slot : Slot} {texts : List Text}

/-! ## Any use of the ends -/

/-- A pipeline after some use of its ends, with the texts written at the output end since the ends
were last moved.  At first its buffers are open and hold anything; it is written to where the output
end leads, and read, line by line or as a whole, where the input end leads. -/
inductive Conveys : List Text → Pipeline → Prop
  | start {pipeline : Pipeline} (hopen : pipeline.BuffersOpen) (hidle : pipeline.opened = false) :
      Conveys [] pipeline
  | begin {texts : List Text} {before : Pipeline} (hbefore : Conveys texts before) :
      Conveys [] before.begin
  | advance {texts : List Text} {before after : Pipeline} (last : Bool)
      (hbefore : Conveys texts before) (hadvance : before.advance last = (.ok (), after)) :
      Conveys [] after
  | finish {texts : List Text} {before : Pipeline} (hbefore : Conveys texts before) :
      Conveys [] before.finish
  | write {texts : List Text} {before after : Pipeline} {count : Nat} (slot : Slot) (text : Text)
      (hbefore : Conveys texts before) (houtput : before.outputSlot? = some slot)
      (hwrite : before.onBuffer slot (Buffer.write text) = (.ok count, after)) :
      Conveys (texts ++ [text]) after
  | read {texts : List Text} {before after : Pipeline} {result : Option Text} (slot : Slot)
      (how : Reading) (hbefore : Conveys texts before)
      (hinput : before.inputSlot? = some slot)
      (hread : before.onBuffer slot (Buffer.read how) = (.ok result, after)) : Conveys texts after
  | fetchLine {texts : List Text} {before after : Pipeline} {line : Text} (slot : Slot)
      (hbefore : Conveys texts before) (hinput : before.inputSlot? = some slot)
      (hfetch : before.onBuffer slot Buffer.fetchLine = (.ok line, after)) : Conveys texts after
  | contents {texts : List Text} {before after : Pipeline} {stored : Text} (slot : Slot)
      (hbefore : Conveys texts before) (hinput : before.inputSlot? = some slot)
      (hcontents : before.onBuffer slot Buffer.contents = (.ok stored, after)) :
      Conveys texts after

/-- The pipeline is ready to be moved on: both buffers are open, none is written and read at once,
and what was written is there for the next stage. -/
structure Ready (texts : List Text) (pipeline : Pipeline) : Prop where
  buffers_open : pipeline.BuffersOpen
  apart : ∀ slot, pipeline.inputSlot? = some slot → pipeline.outputSlot? ≠ some slot
  offered : ∀ slot, pipeline.outputSlot? = some slot →
    (pipeline.buffer slot).Offers texts.flatten

namespace Ready

/-- No buffer is written. -/
lemma of_no_output (hopen : pipeline.BuffersOpen) (h : pipeline.outputSlot? = none) :
    Ready [] pipeline where
  buffers_open := hopen
  apart := by simp [h]
  offered := by simp [h]

lemma movedOn (h : Ready texts pipeline) (last : Bool) :
    Ready [] (pipeline.movedOn last) where
  buffers_open := buffersOpen_movedOn h.buffers_open
  apart := by
    intro slot hinput
    rw [inputSlot?, routing_movedOn] at hinput
    rw [outputSlot?, routing_movedOn]
    exact Routing.outputSlot?_next_ne hinput
  offered := by
    intro slot houtput
    rw [buffer_movedOn_of_output houtput]
    exact Buffer.offers_emptied _

lemma append (h : Ready texts pipeline) (houtput : pipeline.outputSlot? = some slot) (text : Text) :
    Ready (texts ++ [text]) (pipeline.setBuffer slot ((pipeline.buffer slot).append text)) where
  buffers_open := by
    have hclosed : ((pipeline.buffer slot).append text).closed
        = (pipeline.buffer slot).closed := rfl
    exact (alike_setBuffer hclosed).buffersOpen h.buffers_open
  apart := by
    simpa only [inputSlot?, outputSlot?, routing_setBuffer] using h.apart
  offered := by
    intro other hother
    have hsame : slot = other := by
      rw [outputSlot?, routing_setBuffer] at hother
      exact Option.some.inj (houtput.symm.trans hother)
    subst hsame
    rw [buffer_setBuffer_self, List.flatten_append, List.flatten_singleton]
    exact (h.offered slot houtput).append text

/-- Whatever becomes of the buffer that is read, it is not the one that was written. -/
lemma onInput {α : Type} {act : Buffer → Attempt Buffer α} {result : Except Fault α}
    (h : Ready texts pipeline) (hinput : pipeline.inputSlot? = some slot)
    (hclosed : ∀ buffer, (act buffer).2.closed = buffer.closed)
    (hact : pipeline.onBuffer slot act = (result, after)) : Ready texts after := by
  obtain ⟨-, rfl⟩ := Prod.mk.inj hact
  refine ⟨(alike_setBuffer (hclosed _)).buffersOpen h.buffers_open, ?_, fun other hother => ?_⟩
  · simpa only [inputSlot?, outputSlot?, routing_setBuffer] using h.apart
  · rw [outputSlot?, routing_setBuffer] at hother
    have hne : other ≠ slot := by
      rintro rfl
      exact h.apart other hinput hother
    rw [buffer_setBuffer_of_ne _ hne]
    exact h.offered other hother

end Ready

/-- **Every use of the ends keeps the pipeline ready**, by induction on the use. -/
lemma Conveys.ready (h : Conveys texts pipeline) : Ready texts pipeline := by
  induction h with
  | @start pipeline hopen hidle =>
      have hrouting : pipeline.routing.opened = false := hidle
      exact .of_no_output hopen (by simp [outputSlot?, Routing.outputSlot?, hrouting])
  | begin _ ih => exact .of_no_output ih.buffers_open rfl
  | advance last _ hadvance ih =>
      rw [advance_eq_movedOn ih.buffers_open] at hadvance
      obtain ⟨-, rfl⟩ := Prod.mk.inj hadvance
      exact ih.movedOn last
  | finish _ ih => exact .of_no_output ih.buffers_open rfl
  | write slot text _ houtput hwrite ih =>
      rw [onBuffer, Buffer.write_of_open (ih.buffers_open slot)] at hwrite
      obtain ⟨-, rfl⟩ := Prod.mk.inj hwrite
      exact ih.append houtput text
  | read slot how _ hinput hread ih => exact ih.onInput hinput (Buffer.closed_read how) hread
  | fetchLine slot _ hinput hfetch ih => exact ih.onInput hinput Buffer.closed_fetchLine hfetch
  | contents slot _ hinput hcontents ih => exact ih.onInput hinput Buffer.closed_contents hcontents

/-- **Nothing stale and nothing lost.**  However a pipeline was used, it does not write where it
reads, and writing, reading and moving on succeed.  When it is moved on, the buffer to write next is
another one than before and is empty.  If the output end led to a buffer, then the input end leads
there now: it holds exactly the texts that were written since it became the output end, and its
reader is at the start of them. -/
theorem advance_hands_over (h : Conveys texts pipeline) :
    (∀ slot, pipeline.inputSlot? = some slot → pipeline.outputSlot? ≠ some slot) ∧
    (∀ slot text, ∃ after,
      pipeline.onBuffer slot (Buffer.write text) = (.ok text.length, after)) ∧
    (∀ slot how, ∃ result after,
      pipeline.onBuffer slot (Buffer.read how) = (.ok result, after)) ∧
    ∀ last, ∃ after, pipeline.advance last = (.ok (), after) ∧
      (∀ slot, after.outputSlot? = some slot →
        pipeline.outputSlot? ≠ some slot ∧ (after.buffer slot).Offers []) ∧
      ∀ slot, pipeline.outputSlot? = some slot →
        after.inputSlot? = some slot ∧ (after.buffer slot).Offers texts.flatten := by
  have hready := h.ready
  have hopen := hready.buffers_open
  refine ⟨hready.apart, fun slot text => ?_, fun slot how => ?_, fun last => ?_⟩
  · simp [onBuffer, Buffer.write_of_open (hopen slot)]
  · simp [onBuffer, Buffer.read_of_open (hopen slot)]
  · have hinput : ∀ slot, pipeline.outputSlot? = some slot →
        (pipeline.movedOn last).inputSlot? = some slot := by
      intro slot houtput
      rw [inputSlot?, routing_movedOn]
      exact Routing.inputSlot?_next houtput
    refine ⟨_, advance_eq_movedOn hopen last, fun slot houtput => ⟨fun hsame => ?_, ?_⟩,
      fun slot houtput => ⟨hinput slot houtput, ?_⟩⟩
    · exact (hready.movedOn last).apart slot (hinput slot hsame) houtput
    · exact (hready.movedOn last).offered slot houtput
    · rw [buffer_movedOn_of_input (hinput slot houtput)]
      exact hready.offered slot houtput

/-- A pipeline over lent buffers at its second stage, which left a line of its input unread. -/
def halfway : Pipeline where
  first := { owned := false, stored := "first\nunread\n", position := 6 }
  second := { owned := false, stored := "second\n" }
  routing := ⟨.buffer .first, .buffer .second, true⟩

theorem advance_hands_over_halfway :
    Conveys [("second\n" : Text)] halfway ∧
    ∃ after, halfway.advance false = (.ok (), after) ∧
      after.inputSlot? = some .second ∧ (after.buffer .second).Offers "second\n" ∧
      after.outputSlot? = some .first ∧ (after.buffer .first).Offers [] := by
  have hopen : (ofLoans (some "old\n") (some "older\n")).BuffersOpen := by
    intro slot
    cases slot <;> rfl
  have hfirst : Conveys [] ⟨.lent [], .lent "older\n", ⟨.stdin, .buffer .first, true⟩⟩ :=
    .advance false (.begin (.start hopen rfl)) rfl
  have hwritten : Conveys [("first\nunread\n" : Text)]
      ⟨.lent "first\nunread\n", .lent "older\n", ⟨.stdin, .buffer .first, true⟩⟩ :=
    .write .first _ hfirst rfl rfl
  have hsecond : Conveys [] { halfway with first := .lent "first\nunread\n", second := .lent [] } :=
    .advance false hwritten rfl
  have hread : Conveys [] { halfway with second := .lent [] } :=
    .read .first .line hsecond rfl rfl
  have hhalfway : Conveys [("second\n" : Text)] halfway := .write .second _ hread rfl rfl
  obtain ⟨-, -, -, hadvance⟩ := advance_hands_over hhalfway
  obtain ⟨after, heq, hwrites, hreads⟩ := hadvance false
  obtain ⟨hinput, hoffers⟩ := hreads .second rfl
  have houtput : after.outputSlot? = some .first := by
    obtain ⟨-, rfl⟩ := Prod.mk.inj heq
    rfl
  exact ⟨hhalfway, after, heq, hinput, hoffers, houtput, (hwrites .first houtput).2⟩

end Pipeline

end PipedShell
