import PipedShell.Proofs.Pipe.Cursor
import PipedShell.Session.Execution

/-!
# Watching a range run

Running a range gives a result and a session, but not what happened on the way.  This file says what
happened, by following the same recursions: which commands were started and in which sessions, and
what each of them asked for.

* `Session.launches` — the stages of a range whose commands start, each with the session in which
  it starts, in order.  It goes through the sessions of `Session.runStages` and stops where that
  stops.
* `Query` and `Session.queries` — the requests that a program puts to the session, each with the
  session that answers it, along `Session.play`.
* `Query.reading?`, `Query.written`, `Query.line?` — what was read, what was written, which lines
  were run.
-/

namespace PipedShell

/-- A request of a running program, and the session that it is put to. -/
structure Query where
  request : Request
  session : Session

namespace Query

/-- A way of reading and what it gave. -/
def reading? (query : Query) : Option (Reading × Except Fault (Option Text)) :=
  match query.request with
  | .read how => some (how, (query.session.read how).1)
  | _ => none

/-- The text that is written, empty for all other requests. -/
def written (query : Query) : Text :=
  match query.request with
  | .write text => text
  | _ => []

/-- The line that is run. -/
def line? (query : Query) : Option Text :=
  match query.request with
  | .execute line | .runLine line => some line
  | _ => none

/-- The session after the request was answered. -/
def after (run : Session.LineRunner) (query : Query) : Session :=
  (query.session.answer run query.request).2

end Query

namespace Session

/-- What a program asks for, in order. -/
def queries (run : LineRunner) : Program → Session → List Query
  | .done _, _ | .fail _, _ => []
  | .ask request next, session =>
    ⟨request, session⟩ ::
      queries run (next (session.answer run request).1) (session.answer run request).2
  | .register name description body next, session =>
    queries run next (session.register ⟨{ name, description }, some body⟩)

/-- The program that the command of a stage runs. -/
def programOf? (stage : Stage) (session : Session) : Option Program :=
  (session.commands.find? stage.name).bind fun command =>
    command.body.map fun body => body stage.args

/-- A stage whose command starts, and the session in which it starts. -/
structure Launch where
  stage : Stage
  session : Session

/-- What the command of a launched stage asks for. -/
def Launch.queries (run : LineRunner) (launch : Launch) : List Query :=
  match launch.session.programOf? launch.stage with
  | some program => (launch.session.log (.dispatching launch.stage)).queries run program
  | none => []

/-- What the command of a launched stage reads. -/
def Launch.readings (run : LineRunner) (launch : Launch) :
    List (Reading × Except Fault (Option Text)) :=
  (launch.queries run).filterMap Query.reading?

/-- What the command of a launched stage writes. -/
def Launch.written (run : LineRunner) (launch : Launch) : Text :=
  (launch.queries run).flatMap Query.written

/-- The stages of some that start, the next one only when the one before came to an exit code. -/
def stageLaunches (run : LineRunner) : List Stage → Session → List Launch
  | [], _ => []
  | stage :: stages, session =>
    match session.onPipeline (Pipeline.advance stages.isEmpty) with
    | (.error _, _) => []
    | (.ok (), moved) =>
      ⟨stage, moved⟩ ::
        match moved.runCommand run stage with
        | (.ok _, after) => stageLaunches run stages after
        | (.error _, _) => []

/-- The stages of a range that start. -/
def launches (run : LineRunner) (range : PipeRange) (session : Session) : List Launch :=
  match session.onPipeline Pipeline.clearBuffers with
  | (.error _, _) => []
  | (.ok (), cleared) =>
    stageLaunches run range.stages { cleared with pipeline := cleared.pipeline.begin }

variable {run : LineRunner} {session : Session}

/-- A program that returns makes its command come to the code of the value, if it has one. -/
lemma runCommand_of_value {stage : Stage} {program : Program} {value : Value} {after : Session}
    (hprogram : session.programOf? stage = some program)
    (hplay : (session.log (.dispatching stage)).play run program = (.ok value, after)) :
    session.runCommand run stage = (value.exitCode.mapError .defect, after) := by
  obtain ⟨command, hfind, hstarts⟩ := Option.bind_eq_some_iff.1 hprogram
  obtain ⟨body, hbody, rfl⟩ := Option.map_eq_some_iff.1 hstarts
  have hinvoke : (session.log (.dispatching stage)).invoke run command stage.args
      = (value.exitCode.mapError .defect, after) := by
    simp [invoke, hbody, hplay]
  simp only [runCommand, hfind, hinvoke]
  cases value.exitCode <;> rfl

lemma runCommand_of_play {stage : Stage} {program : Program} {value : Value} {code : Int}
    {after : Session} (hprogram : session.programOf? stage = some program)
    (hplay : (session.log (.dispatching stage)).play run program = (.ok value, after))
    (hcode : value.exitCode = .ok code) : session.runCommand run stage = (.ok code, after) := by
  rw [runCommand_of_value hprogram hplay, hcode]
  rfl

section Stages

variable {stage : Stage} {moved after : Session} {next : Int}

/-- A stage that comes to an exit code is followed by the others. -/
lemma runStages_cons (code : Int) (stages : List Stage)
    (hadvance : session.onPipeline (Pipeline.advance stages.isEmpty) = (.ok (), moved))
    (hcommand : moved.runCommand run stage = (.ok next, after)) :
    runStages run code (stage :: stages) session
      = runStages run (bitOr code next) stages after := by
  simp only [runStages, hadvance, hcommand]

lemma stageLaunches_cons (stages : List Stage)
    (hadvance : session.onPipeline (Pipeline.advance stages.isEmpty) = (.ok (), moved))
    (hcommand : moved.runCommand run stage = (.ok next, after)) :
    stageLaunches run (stage :: stages) session
      = ⟨stage, moved⟩ :: stageLaunches run stages after := by
  simp only [stageLaunches, hadvance, hcommand]

/-- A stage does not start, or it is the last one that does, or the others follow. -/
lemma stageLaunches_cases (run : LineRunner) (stage : Stage) (stages : List Stage)
    (session : Session) :
    stageLaunches run (stage :: stages) session = [] ∨
      ∃ moved, session.onPipeline (Pipeline.advance stages.isEmpty) = (.ok (), moved) ∧
        (stageLaunches run (stage :: stages) session = [⟨stage, moved⟩] ∨
          ∃ code after, moved.runCommand run stage = (.ok code, after) ∧
            stageLaunches run (stage :: stages) session
              = ⟨stage, moved⟩ :: stageLaunches run stages after) := by
  cases hadvance : session.onPipeline (Pipeline.advance stages.isEmpty) with
  | mk result moved =>
      cases result with
      | error fault =>
          left
          simp only [stageLaunches, hadvance]
      | ok _ =>
          right
          refine ⟨moved, rfl, ?_⟩
          cases hcommand : moved.runCommand run stage with
          | mk result after =>
              cases result with
              | error fault =>
                  left
                  simp only [stageLaunches, hadvance, hcommand]
              | ok code =>
                  right
                  exact ⟨code, after, rfl, stageLaunches_cons stages hadvance hcommand⟩

end Stages

/-- The session in which the first stage of a range is about to start. -/
def started (session : Session) : Session :=
  { session with pipeline := session.pipeline.emptied.begin }

lemma clearBuffers_of_open (h : session.pipeline.BuffersOpen) :
    session.onPipeline Pipeline.clearBuffers
      = (.ok (), { session with pipeline := session.pipeline.emptied }) := by
  simp only [onPipeline, Pipeline.clearBuffers_of_open h]

/-- A range on open buffers runs its stages and closes the pipe. -/
lemma runRange_of_open (range : PipeRange) (h : session.pipeline.BuffersOpen) :
    session.runRange run range =
      ((session.started.runStages run 0 range.stages).1,
        { (session.started.runStages run 0 range.stages).2 with
          pipeline := (session.started.runStages run 0 range.stages).2.pipeline.finish }) := by
  simp only [runRange, clearBuffers_of_open h]
  rfl

lemma launches_of_closed (range : PipeRange) (h : ¬ session.pipeline.BuffersOpen) :
    session.launches run range = [] := by
  rw [launches]
  split
  · rfl
  · next heq =>
      simp only [onPipeline, Prod.mk.injEq] at heq
      exact absurd (Pipeline.buffersOpen_of_clearBuffers (Prod.ext heq.1 rfl)) h

lemma launches_of_open (range : PipeRange) (h : session.pipeline.BuffersOpen) :
    session.launches run range = stageLaunches run range.stages session.started := by
  simp only [launches, clearBuffers_of_open h]
  rfl

end Session

end PipedShell
