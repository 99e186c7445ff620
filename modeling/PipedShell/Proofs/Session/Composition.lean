import PipedShell.Proofs.Builtin.Filters
import PipedShell.Proofs.Pipe.Turns

/-!
# A range of filters is the composition of the filters

The stages of a range take turns on two buffers that are emptied, filled and read again and again.
For filters all of this comes to plain composition: each one does what it does alone over all that
the one before wrote, and this file proves it.

* `Session.upcoming` — what the next stage is going to read, under the invariant `Pipeline.Waits`.
* `Session.afterStage` — the session after a stage, its fields one by one.
* `Session.Composes` — what all stages together do, by induction.
* `Session.Prints` — what a range comes to and prints; `prints_filters` for a range of filters.
* **`runRange_compose`** — a range of filters, on any session with open buffers and a standard
  output.
-/

namespace PipedShell

namespace Session

/-! ## What a filter leaves -/

section Perform

variable {session : Session} {solo : Solo}

lemma Ends.perform (h : session.Ends) (solo : Solo) : (session.perform solo).Ends :=
  ((h.readTo solo.rest).emit solo.output).complain solo.errors

@[simp] lemma routing_perform (solo : Solo) (session : Session) :
    (session.perform solo).pipeline.routing = session.pipeline.routing := by
  cases hin : session.pipeline.inputSlot? <;> cases hout : session.pipeline.outputSlot? <;>
    simp [perform, readTo, emit, hin, hout]

/-- A filter touches nothing but streams and buffers.  It reads the standard input and writes to the
standard output if its ends lead there. -/
lemma perform_frame (solo : Solo) (session : Session) :
    session.perform solo =
      { session with
        stdin := if session.pipeline.inputSlot? = none then solo.rest else session.stdin
        stdout := session.stdout
          ++ if session.pipeline.outputSlot? = none then solo.output else []
        errors := session.errors
          ++ if session.stderrAttached then solo.errors.map .text else []
        pipeline := (session.perform solo).pipeline } := by
  by_cases hattached : session.stderrAttached <;>
    cases hin : session.pipeline.inputSlot? <;> cases hout : session.pipeline.outputSlot? <;>
    simp [perform, complain, readTo, emit, hattached, hin, hout]

lemma buffer_perform_output {slot : Slot} (h : session.Ends)
    (hout : session.pipeline.outputSlot? = some slot) :
    (session.perform solo).pipeline.buffer slot
      = (session.pipeline.buffer slot).append solo.output := by
  cases hin : session.pipeline.inputSlot? with
  | none => simp [perform, readTo, emit, hin, hout]
  | some other =>
      have hne : slot ≠ other := by
        rintro rfl
        exact h.apart slot hin hout
      simp [perform, readTo, emit, hin, hout, Pipeline.buffer_setBuffer_of_ne _ hne]

lemma fills_perform {slot : Slot} (h : session.Ends)
    (hout : session.pipeline.outputSlot? = some slot) :
    Pipeline.Fills slot solo.output session.pipeline (session.perform solo).pipeline where
  routing := routing_perform solo session
  closed := by
    intro other
    rw [(h.perform solo).buffers_open other, h.buffers_open other]
  filled := buffer_perform_output h hout

lemma stored_perform {slot : Slot} (hout : session.pipeline.outputSlot? ≠ some slot) :
    ((session.perform solo).pipeline.buffer slot).stored
      = (session.pipeline.buffer slot).stored := by
  have hread : ((session.readTo solo.rest).pipeline.buffer slot).stored
      = (session.pipeline.buffer slot).stored := by
    cases hin : session.pipeline.inputSlot? with
    | none => simp [readTo, hin]
    | some other =>
        by_cases heq : slot = other
        · subst heq
          simp [readTo, hin, Buffer.moveTo]
        · simp [readTo, hin, Pipeline.buffer_setBuffer_of_ne _ heq]
  cases hslot : session.pipeline.outputSlot? with
  | none => simpa [perform, emit, hslot] using hread
  | some other =>
      have hne : slot ≠ other := by
        rintro rfl
        exact hout hslot
      simpa [perform, emit, hslot, Pipeline.buffer_setBuffer_of_ne _ hne] using hread

end Perform

/-! ## One stage -/

/-- What the next stage is going to read. -/
def upcoming (session : Session) : Source :=
  match session.pipeline.routing.output.slot? with
  | some slot => (session.pipeline.buffer slot).source
  | none => session.stdin

/-- The next stage is going to read exactly what the stage before wrote. -/
lemma upcoming_of_fills {before after : Session} {text : Text} (h : before.pipeline.Waits)
    (hfills : Pipeline.Fills before.pipeline.turn text (before.pipeline.movedOn false)
      after.pipeline) : after.upcoming = .ofText text := by
  simp only [upcoming, Pipeline.output_of_fills h hfills, Endpoint.slot?,
    Pipeline.buffer_of_fills h hfills]
  exact Buffer.source_append_emptied _ _

/-- The session whose pipe was moved on to the next stage. -/
def movedOn (last : Bool) (session : Session) : Session :=
  { session with pipeline := session.pipeline.movedOn last }

/-- The session after a stage whose command does what it does alone. -/
def afterStage (last : Bool) (stage : Stage) (solo : Solo) (session : Session) : Session :=
  ((session.movedOn last).log (.dispatching stage)).perform solo

/-- What a stage adds to the error stream: the record of its start and what its command complains
of. -/
def complaints (attached : Bool) (stage : Stage) (solo : Solo) : List ErrorEntry :=
  .record (.dispatching stage) :: if attached then solo.errors.map .text else []

section Stage

variable {run : LineRunner} {session : Session} {last : Bool} {stage : Stage} {solo : Solo}

lemma input_movedOn (h : session.pipeline.Waits) :
    (session.movedOn last).input = session.upcoming := by
  cases hslot : session.pipeline.routing.output.slot? with
  | none => simp [input, upcoming, movedOn, Pipeline.inputSlot?_movedOn h, hslot]
  | some slot =>
      have hne : slot ≠ session.pipeline.turn := Pipeline.turn_ne hslot
      simp [input, upcoming, movedOn, Pipeline.inputSlot?_movedOn h,
        Pipeline.buffer_movedOn_of_waits h, hslot, hne]

lemma ends_movedOn (h : session.pipeline.Waits) (hattached : session.stdoutAttached = true) :
    (session.movedOn last).Ends where
  buffers_open := Pipeline.buffersOpen_movedOn h.buffers_open
  apart := by
    intro slot hin hout
    rw [movedOn, Pipeline.outputSlot?_movedOn h] at hout
    cases last with
    | true => cases hout
    | false =>
        obtain rfl : session.pipeline.turn = slot := Option.some.inj hout
        exact Pipeline.inputSlot?_movedOn_ne_turn h hin
  positioned := by
    intro slot hin
    have hslot := (Pipeline.inputSlot?_movedOn h).symm.trans hin
    have hne : slot ≠ session.pipeline.turn := Pipeline.turn_ne hslot
    simpa [movedOn, Pipeline.buffer_movedOn_of_waits h, hne] using h.positioned slot hslot
  taken := by
    intro hout
    refine ⟨?_, hattached⟩
    rw [movedOn, Pipeline.output_movedOn h]
    cases last <;> simp

lemma runCommand_filter {program : Program} (hprogram : session.programOf? stage = some program)
    (hfilter : program.IsFilter) (hends : session.Ends) :
    session.runCommand run stage
      = (.ok (program.alone session.input).code,
        (session.log (.dispatching stage)).perform (program.alone session.input)) := by
  obtain ⟨value, hcode, hplay⟩ :=
    play_filter run hfilter (hends.log (.dispatching stage))
  exact runCommand_of_play hprogram hplay hcode

lemma stdout_afterStage (h : session.pipeline.Waits) :
    (session.afterStage last stage solo).stdout
      = session.stdout ++ if last then solo.output else [] := by
  have hout : ((session.movedOn last).log (.dispatching stage)).pipeline.outputSlot?
      = if last then none else some session.pipeline.turn := Pipeline.outputSlot?_movedOn h
  rw [afterStage, perform_frame, hout]
  cases last <;> simp [log, movedOn]

lemma stdin_afterStage (h : session.pipeline.Waits) :
    (session.afterStage last stage solo).stdin
      = if session.pipeline.routing.output.slot? = none then solo.rest else session.stdin := by
  have hin : ((session.movedOn last).log (.dispatching stage)).pipeline.inputSlot?
      = session.pipeline.routing.output.slot? := Pipeline.inputSlot?_movedOn h
  rw [afterStage, perform_frame, hin]
  rfl

lemma errors_afterStage (last : Bool) (stage : Stage) (solo : Solo) (session : Session) :
    (session.afterStage last stage solo).errors
      = session.errors ++ complaints session.stderrAttached stage solo := by
  have hlogged : ((session.movedOn last).log (.dispatching stage)).errors
      = session.errors ++ [.record (.dispatching stage)] := rfl
  rw [afterStage, perform_frame, hlogged, List.append_assoc]
  rfl

/-- The text of the error stream after a stage: the record of its start is no text. -/
lemma stderr_afterStage (last : Bool) (stage : Stage) (solo : Solo) (session : Session) :
    (session.afterStage last stage solo).stderr
      = session.stderr ++ if session.stderrAttached then solo.errors.flatten else [] := by
  by_cases hattached : session.stderrAttached <;>
    simp [stderr, errors_afterStage, complaints, hattached, List.flatMap_map, List.flatMap_id']

/-- A stage that is not the last one fills the buffer whose turn it is. -/
lemma fills_afterStage (stage : Stage) (solo : Solo) (h : session.pipeline.Waits)
    (hattached : session.stdoutAttached = true) :
    Pipeline.Fills session.pipeline.turn solo.output (session.pipeline.movedOn false)
      (session.afterStage false stage solo).pipeline := by
  have hends : ((session.movedOn false).log (.dispatching stage)).Ends :=
    (ends_movedOn h hattached).log _
  have hout : ((session.movedOn false).log (.dispatching stage)).pipeline.outputSlot?
      = some session.pipeline.turn := Pipeline.outputSlot?_movedOn h
  exact fills_perform hends hout

lemma stored_afterStage_last (h : session.pipeline.Waits) (slot : Slot) :
    ((session.afterStage true stage solo).pipeline.buffer slot).stored
      = (session.pipeline.buffer slot).stored := by
  have hout : ((session.movedOn true).log (.dispatching stage)).pipeline.outputSlot? = none :=
    Pipeline.outputSlot?_movedOn h
  rw [afterStage, stored_perform (by rw [hout]; simp)]
  have hbuffer := Pipeline.buffer_movedOn_of_waits h true slot
  rw [if_neg fun h => Bool.noConfusion h.1] at hbuffer
  exact congrArg Buffer.stored hbuffer

lemma stored_afterStage (h : session.pipeline.Waits) (hattached : session.stdoutAttached = true) :
    (fun slot => ((session.afterStage false stage solo).pipeline.buffer slot).stored)
      = Function.update (fun slot => (session.pipeline.buffer slot).stored)
          session.pipeline.turn solo.output := by
  funext slot
  by_cases hturn : slot = session.pipeline.turn
  · subst hturn
    rw [Pipeline.buffer_of_fills h (fills_afterStage stage solo h hattached),
      Function.update_self]
    rfl
  · have hout : ((session.movedOn false).log (.dispatching stage)).pipeline.outputSlot?
        = some session.pipeline.turn := Pipeline.outputSlot?_movedOn h
    have hother : ((session.movedOn false).log (.dispatching stage)).pipeline.outputSlot?
        ≠ some slot := by
      rw [hout]
      simpa using Ne.symm hturn
    rw [Function.update_of_ne hturn, afterStage, stored_perform hother]
    have hbuffer := Pipeline.buffer_movedOn_of_waits h false slot
    rw [if_neg fun h => hturn h.2] at hbuffer
    exact congrArg Buffer.stored hbuffer

lemma afterStage_frame (last : Bool) (stage : Stage) (solo : Solo) (session : Session) :
    session.afterStage last stage solo =
      { session with
        stdin := (session.afterStage last stage solo).stdin
        stdout := (session.afterStage last stage solo).stdout
        errors := (session.afterStage last stage solo).errors
        pipeline := (session.afterStage last stage solo).pipeline } := by
  rw [afterStage, perform_frame]
  rfl

lemma commands_afterStage (last : Bool) (stage : Stage) (solo : Solo) (session : Session) :
    (session.afterStage last stage solo).commands = session.commands := by
  rw [afterStage_frame]

lemma stderrAttached_afterStage (last : Bool) (stage : Stage) (solo : Solo) (session : Session) :
    (session.afterStage last stage solo).stderrAttached = session.stderrAttached := by
  rw [afterStage_frame]

lemma stdoutAttached_afterStage (last : Bool) (stage : Stage) (solo : Solo) (session : Session) :
    (session.afterStage last stage solo).stdoutAttached = session.stdoutAttached := by
  rw [afterStage_frame]

end Stage

/-! ## All stages -/

/-- The texts in the buffers after further texts were put in them in turns, each one in place of
what was there. -/
def leftOver : Slot → (Slot → Text) → List Text → Slot → Text
  | _, held, [] => held
  | turn, held, text :: texts => leftOver turn.other (Function.update held turn text) texts

/-- What stages do to a session whose commands do what they do alone.  Nothing else changes. -/
structure Composes (stages : List Stage) (solos : List Solo) (before after : Session) : Prop where
  /-- Only the first stage reads the standard input. -/
  stdin : after.stdin = if before.pipeline.routing.output.slot? = none
    then (solos.head?.map Solo.rest).getD before.stdin else before.stdin
  /-- Only the last stage writes to the standard output. -/
  stdout : after.stdout = before.stdout ++ (solos.getLast?.map Solo.output).getD []
  stderr : after.stderr
    = before.stderr ++ if before.stderrAttached then (solos.flatMap Solo.errors).flatten else []
  errors : after.errors = before.errors
    ++ (List.zipWith (complaints before.stderrAttached) stages solos).flatten
  /-- The buffers hold what the other stages wrote. -/
  stored : ∀ slot, (after.pipeline.buffer slot).stored
    = leftOver before.pipeline.turn (fun slot => (before.pipeline.buffer slot).stored)
        (solos.dropLast.map Solo.output) slot
  buffers_open : after.pipeline.BuffersOpen
  frame : after = { before with
    stdin := after.stdin
    stdout := after.stdout
    errors := after.errors
    pipeline := after.pipeline }

namespace Composes

variable {session after : Session} {stages : List Stage} {stage : Stage} {solos : List Solo}
  {solo next : Solo}

lemma nil (h : session.pipeline.BuffersOpen) : Composes [] [] session session where
  stdin := by simp
  stdout := by simp
  stderr := by simp
  errors := by simp
  stored := fun _ => rfl
  buffers_open := h
  frame := rfl

lemma last (h : session.pipeline.Waits) (hattached : session.stdoutAttached = true) :
    Composes [stage] [solo] session (session.afterStage true stage solo) where
  stdin := by simpa using stdin_afterStage h
  stdout := by
    rw [stdout_afterStage h]
    rfl
  stderr := by simpa using stderr_afterStage true stage solo session
  errors := by simpa using errors_afterStage true stage solo session
  stored := fun slot => stored_afterStage_last h slot
  buffers_open := (((ends_movedOn h hattached).log _).perform solo).buffers_open
  frame := afterStage_frame true stage solo session

/-- A stage before others writes to the buffer whose turn it is. -/
lemma cons (h : session.pipeline.Waits) (hattached : session.stdoutAttached = true)
    (hrest : Composes stages (next :: solos) (session.afterStage false stage solo) after) :
    Composes (stage :: stages) (solo :: next :: solos) session after where
  stdin := by
    rw [hrest.stdin, Pipeline.output_of_fills h (fills_afterStage stage solo h hattached),
      stdin_afterStage h]
    simp [Endpoint.slot?]
  stdout := by
    rw [hrest.stdout, stdout_afterStage h]
    simp
  stderr := by
    rw [hrest.stderr, stderr_afterStage, stderrAttached_afterStage]
    by_cases hshown : session.stderrAttached <;> simp [hshown]
  errors := by
    rw [hrest.errors, errors_afterStage, stderrAttached_afterStage, List.append_assoc]
    rfl
  stored := by
    intro slot
    rw [hrest.stored, Pipeline.turn_of_fills h (fills_afterStage stage solo h hattached),
      stored_afterStage h hattached]
    rfl
  buffers_open := hrest.buffers_open
  frame := by
    rw [hrest.frame, afterStage_frame]

end Composes

/-- The command of each stage runs the program beside it, which is a filter. -/
def RunFilters (session : Session) (stages : List Stage) (programs : List Program) : Prop :=
  List.Forall₂ (fun stage program => session.programOf? stage = some program ∧ program.IsFilter)
    stages programs

/-- Which commands a session has does not change by running filters. -/
lemma RunFilters.of_commands {session other : Session} {stages : List Stage}
    {programs : List Program} (h : session.RunFilters stages programs)
    (hcommands : other.commands = session.commands) : other.RunFilters stages programs := by
  have hprogram : ∀ stage, other.programOf? stage = session.programOf? stage := by
    intro stage
    simp only [programOf?, hcommands]
  simpa only [RunFilters, hprogram] using h

section Stages

variable {session : Session} {stage : Stage} {program : Program}

/-- One stage: the pipe moves on, and the filter does what it does alone over what was upcoming. -/
lemma stage_filter (run : LineRunner) (last : Bool) (h : session.pipeline.Waits)
    (hattached : session.stdoutAttached = true)
    (hprogram : session.programOf? stage = some program) (hfilter : program.IsFilter) :
    session.onPipeline (Pipeline.advance last) = (.ok (), session.movedOn last) ∧
      (session.movedOn last).runCommand run stage
        = (.ok (program.alone session.upcoming).code,
          session.afterStage last stage (program.alone session.upcoming)) ∧
      Launch.readings run ⟨stage, session.movedOn last⟩
        = (program.alone session.upcoming).replies := by
  have hends : (session.movedOn last).Ends := ends_movedOn h hattached
  have hmoved : (session.movedOn last).programOf? stage = some program := hprogram
  have hinput : (session.movedOn last).input = session.upcoming := input_movedOn h
  refine ⟨?_, ?_, ?_⟩
  · simp only [onPipeline, Pipeline.advance_eq_movedOn h.buffers_open]
    rfl
  · rw [runCommand_filter hmoved hfilter hends, hinput]
    rfl
  · have hlogged : ((session.movedOn last).log (.dispatching stage)).input = session.upcoming :=
      hinput
    have hreadings := readings_filter run hfilter (hends.log (.dispatching stage))
    rw [hlogged] at hreadings
    simp only [Launch.readings, Launch.queries, hmoved]
    exact hreadings

/-- Stages of filters compose.  By induction on the stages: what one of them wrote is what is
upcoming for the next. -/
lemma runStages_filters (run : LineRunner) {stages : List Stage} {programs : List Program}
    {session : Session} (code : Int) (h : session.pipeline.Waits)
    (hattached : session.stdoutAttached = true)
    (hprograms : session.RunFilters stages programs) :
    ∃ after,
      runStages run code stages session = (.ok (.proceed
        (((Program.compose programs session.upcoming).map Solo.code).foldl bitOr code)), after) ∧
      Composes stages (Program.compose programs session.upcoming) session after ∧
      (stageLaunches run stages session).map (Launch.readings run)
        = (Program.compose programs session.upcoming).map Solo.replies := by
  induction stages generalizing programs session code with
  | nil =>
      cases hprograms
      exact ⟨session, rfl, .nil h.buffers_open, rfl⟩
  | cons stage stages ih =>
      obtain _ | ⟨⟨hprogram, hfilter⟩, hstages⟩ := hprograms
      rename_i program programs
      set solo := program.alone session.upcoming with hsolo
      cases stages with
      | nil =>
          cases hstages
          obtain ⟨hadvance, hcommand, hreadings⟩ :=
            stage_filter run true h hattached hprogram hfilter
          refine ⟨session.afterStage true stage solo, ?_, .last h hattached, ?_⟩
          · rw [runStages_cons code [] hadvance hcommand]
            rfl
          · rw [stageLaunches_cons [] hadvance hcommand, List.map_cons, hreadings]
            rfl
      | cons second stages =>
          obtain _ | ⟨hsecond, hstages⟩ := hstages
          rename_i other programs
          obtain ⟨hadvance, hcommand, hreadings⟩ :=
            stage_filter run false h hattached hprogram hfilter
          obtain ⟨after, hrun, hcomposes, hlaunches⟩ := ih (bitOr code solo.code)
            (h.of_fills (fills_afterStage stage solo h hattached))
            ((stdoutAttached_afterStage false stage solo session).trans hattached)
            (RunFilters.of_commands (.cons hsecond hstages)
              (commands_afterStage false stage solo session))
          rw [upcoming_of_fills h (fills_afterStage stage solo h hattached)]
            at hrun hcomposes hlaunches
          refine ⟨after, ?_, .cons h hattached hcomposes, ?_⟩
          · rw [runStages_cons code (second :: stages) hadvance hcommand]
            exact hrun
          · rw [stageLaunches_cons (second :: stages) hadvance hcommand, List.map_cons, hreadings,
              hlaunches]
            rfl

end Stages

/-! ## A range -/

lemma waits_started {session : Session} (h : session.pipeline.BuffersOpen) :
    session.started.pipeline.Waits where
  opened := rfl
  buffers_open := by
    intro slot
    cases slot with
    | first => exact h .first
    | second => exact h .second
  positioned := by
    intro slot hslot
    cases hslot
  starts := fun _ => rfl

/-- The stages, as a range, come to a code and add a text to the standard output. -/
def Prints (run : LineRunner) (session : Session) (stages : List Stage) (code : Int)
    (text : Text) : Prop :=
  ∀ boundary, ∃ after, session.runRange run ⟨boundary, stages⟩ = (.ok (.proceed code), after) ∧
    after.stdout = session.stdout ++ text

/-- A range of filters prints what the last of them writes. -/
lemma prints_filters (run : LineRunner) {session : Session} {stages : List Stage}
    {programs : List Program} (hopen : session.pipeline.BuffersOpen)
    (hattached : session.stdoutAttached = true) (hprograms : session.RunFilters stages programs) :
    session.Prints run stages
      (((Program.compose programs session.stdin).map Solo.code).foldl bitOr 0)
      (((Program.compose programs session.stdin).getLast?.map Solo.output).getD []) := by
  intro boundary
  have hstarted : session.started.RunFilters stages programs := hprograms.of_commands rfl
  obtain ⟨after, hrun, hcomposes, -⟩ :=
    runStages_filters run 0 (waits_started hopen) hattached hstarted
  refine ⟨{ after with pipeline := after.pipeline.finish }, ?_, hcomposes.stdout⟩
  rw [runRange_of_open ⟨boundary, stages⟩ hopen, hrun]
  rfl

lemma prints_filter (run : LineRunner) {session : Session} {stage : Stage} {program : Program}
    (hopen : session.pipeline.BuffersOpen) (hattached : session.stdoutAttached = true)
    (hprogram : session.programOf? stage = some program) (hfilter : program.IsFilter) :
    session.Prints run [stage] (bitOr 0 (program.alone session.stdin).code)
      (program.alone session.stdin).output := by
  simpa [Program.compose] using
    prints_filters run hopen hattached (.cons ⟨hprogram, hfilter⟩ .nil)

/-- **A range of filters is the composition of the filters.**  Whatever the buffers hold and
wherever the pipe leads before, and however many stages there are: the range goes on with the codes
joined; the standard output gets exactly what the last filter writes alone; every read gives what it
gives alone over what the filter before wrote; the standard input is where the first filter leaves
it; the error stream gets what the filters complain of, in the order of the stages; and the buffers
hold what the filters before the last one wrote and nothing else. -/
theorem runRange_compose (run : LineRunner) {session : Session} {range : PipeRange}
    {programs : List Program} (hopen : session.pipeline.BuffersOpen)
    (hattached : session.stdoutAttached = true)
    (hprograms : session.RunFilters range.stages programs) :
    let solos := Program.compose programs session.stdin
    ∃ after,
      session.runRange run range
        = (.ok (.proceed ((solos.map Solo.code).foldl bitOr 0)), after) ∧
      after.stdout = session.stdout ++ (solos.getLast?.map Solo.output).getD [] ∧
      (session.launches run range).map (Launch.readings run) = solos.map Solo.replies ∧
      after.stdin = (solos.head?.map Solo.rest).getD session.stdin ∧
      after.stderr = session.stderr
        ++ (if session.stderrAttached then (solos.flatMap Solo.errors).flatten else []) ∧
      after.errors = session.errors
        ++ (List.zipWith (complaints session.stderrAttached) range.stages solos).flatten ∧
      (∀ slot, (after.pipeline.buffer slot).stored
        = leftOver .first (fun _ => []) (solos.dropLast.map Solo.output) slot) ∧
      after.pipeline.BuffersOpen ∧ after.pipeline.routing = .idle ∧
      after = { session with
        stdin := after.stdin
        stdout := after.stdout
        errors := after.errors
        pipeline := after.pipeline } := by
  intro solos
  have hstarted : session.started.RunFilters range.stages programs := hprograms.of_commands rfl
  obtain ⟨after, hrun, hcomposes, hlaunches⟩ :=
    runStages_filters run 0 (waits_started hopen) hattached hstarted
  have hupcoming : session.started.upcoming = session.stdin := rfl
  rw [hupcoming] at hrun hcomposes hlaunches
  refine ⟨{ after with pipeline := after.pipeline.finish }, ?_, hcomposes.stdout, ?_,
    hcomposes.stdin, hcomposes.stderr, hcomposes.errors, ?_, ?_, rfl, ?_⟩
  · rw [runRange_of_open range hopen, hrun]
  · rw [launches_of_open range hopen, hlaunches]
  · intro slot
    have hstored := hcomposes.stored slot
    have hheld : (fun slot => (session.started.pipeline.buffer slot).stored) = fun _ => [] := by
      funext slot
      cases slot <;> rfl
    rw [hheld] at hstored
    cases slot <;> exact hstored
  · intro slot
    have hslot := hcomposes.buffers_open slot
    cases slot <;> exact hslot
  · have hframe := hcomposes.frame
    rw [hframe]
    rfl

/-- A session with the built-in commands that something left with texts in its buffers, a rest held
back, and the pipe open. -/
def disordered : Session where
  commands := Builtin.commands
  pipeline :=
    { first := { owned := false, stored := "old", position := 2, pending := "rest" }
      second := { stored := "older" }
      routing := ⟨.buffer .second, .stdout, true⟩ }
  stdin := .ofText "a\nb\n"
  stdout := "$ "

/-- Copying, searching and counting. -/
def threeStages : PipeRange where
  boundary := none
  stages := [⟨"cat", []⟩, ⟨"grep", ["b"]⟩, ⟨"wc", []⟩]

theorem runRange_compose_disordered :
    disordered.pipeline.BuffersOpen ∧ disordered.stdoutAttached = true ∧
      disordered.RunFilters threeStages.stages
        [Builtin.cat [], Builtin.grep ["b"], Builtin.wc []] ∧
      ∃ after, disordered.runRange (execute 0) threeStages = (.ok (.proceed 0), after) ∧
        after.stdout = "$ 1\n" ∧ after.stdin = .ofText [] := by
  have hopen : disordered.pipeline.BuffersOpen := by
    intro slot
    cases slot <;> rfl
  have hprograms : disordered.RunFilters threeStages.stages
      [Builtin.cat [], Builtin.grep ["b"], Builtin.wc []] :=
    .cons ⟨rfl, Builtin.isFilter_cat _⟩ (.cons ⟨rfl, Builtin.isFilter_grep _⟩
      (.cons ⟨rfl, Builtin.isFilter_wc _⟩ .nil))
  refine ⟨hopen, rfl, hprograms, ?_⟩
  obtain ⟨after, hrun, hstdout, -, hstdin, -⟩ :=
    runRange_compose (execute 0) hopen rfl hprograms
  exact ⟨after, hrun, hstdout, hstdin⟩

end Session

end PipedShell
