import PipedShell.Builtin
import PipedShell.Proofs.Session.Closing
import PipedShell.Proofs.Session.Ends
import PipedShell.Session.Loop

/-!
# Between runs the pipe is closed

Commands can do anything to the pipe while they run: open it, move it on, run lines that open it
again, or break off at any point.  Whoever runs them closes the pipe afterwards, so outside of
commands a session writes to its standard output and reads its standard input.

* `Session.AtRest` — the pipe is closed, and what that means for writing and reading.
* `loopStep_keeps_closed`, `loopLines_keeps_closed` and so on — the read loops, by induction on what
  they read.
* **`pipe_closed_between_runs`** — ranges, lines and loops all leave a closed pipe closed, however
  they end.
-/

namespace PipedShell

namespace Session

variable {run : LineRunner} {session : Session}

/-- The pipe is closed.  What is written goes to the standard output, if there is one, and what is
read comes from the standard input. -/
structure AtRest (session : Session) : Prop where
  closed : session.pipeline.routing = .idle
  write : ∀ text, session.write text =
    if session.stdoutAttached then (.ok (), { session with stdout := session.stdout ++ text })
    else (.error (.line (.closedPipe LineFault.noOutputDetail)), session)
  read : ∀ how, session.read how =
    (.ok (session.stdin.read how).1, { session with stdin := (session.stdin.read how).2 })

lemma atRest_of_closed (h : session.pipeline.routing = .idle) : session.AtRest where
  closed := h
  write := by
    intro text
    simp [Session.write, Pipeline.outputSlot?, Pipeline.opened, h, Routing.idle,
      Routing.outputSlot?]
  read := by
    intro how
    simp [Session.read, Pipeline.inputSlot?, h, Routing.idle, Routing.inputSlot?]

/-! ## Ranges and lines -/

lemma runRanges_keeps_closed (skipping : Bool) (ranges : List PipeRange)
    (h : session.pipeline.routing = .idle) :
    (session.runRanges run skipping ranges).2.pipeline.routing = .idle := by
  cases ranges with
  | nil => exact h
  | cons range ranges =>
      exact runRanges_cons_closed skipping range ranges (runRange_keeps_closed range h)

lemma reporting_keeps_closed (depth : Nat) (line : Text) (h : session.pipeline.routing = .idle) :
    (reporting (execute depth) line session).2.pipeline.routing = .idle := by
  rw [pipeline_reporting]
  exact execute_keeps_closed depth line h

/-! ## Loops -/

lemma loopStep_keeps_closed (line : Text) (h : session.pipeline.routing = .idle) :
    (session.loopStep line).2.pipeline.routing = .idle := by
  have hline : (session.runLine line).2.pipeline.routing = .idle :=
    reporting_keeps_closed maxDepth line h
  rw [loopStep]
  split_ifs
  · exact h
  · generalize session.runLine line = ran at hline ⊢
    rcases ran with ⟨fault | code | code, after⟩ <;> exact hline

/-- A list of lines, by induction on the list: each line finds the pipe closed. -/
lemma loopLines_keeps_closed (lines : List (Option Text)) (h : session.pipeline.routing = .idle) :
    (loopLines lines session).1.2.pipeline.routing = .idle := by
  induction lines generalizing session with
  | nil => exact h
  | cons entry lines ih =>
      cases entry with
      | none => exact h
      | some line =>
          have hstep := loopStep_keeps_closed line h
          rw [loopLines]
          generalize session.loopStep line = step at hstep ⊢
          rcases step with ⟨fault | _ | code, after⟩
          · exact hstep
          · exact ih hstep
          · exact hstep

lemma loopAnswers_keeps_closed (answers : List Answer) (h : session.pipeline.routing = .idle) :
    (loopAnswers answers session).2.pipeline.routing = .idle := by
  induction answers generalizing session with
  | nil => exact h
  | cons answer answers ih =>
      cases answer with
      | endOfInput => exact h
      | interrupt => exact ih ((congrArg Pipeline.routing (pipeline_writeError ..)).trans h)
      | line line =>
          have hprompted : (session.remember
              ⟨"prompt", .text session.prompt⟩).pipeline.routing = .idle := h
          have hstep := loopStep_keeps_closed line hprompted
          simp only [loopAnswers]
          generalize Session.loopStep line _ = step at hstep ⊢
          rcases step with ⟨fault | _ | code, after⟩
          · exact hstep
          · exact ih hstep
          · exact hstep

/-- The standard input as the lines, by induction on how many of them are read at most. -/
lemma loopConsole_keeps_closed (fuel : Nat) (h : session.pipeline.routing = .idle) :
    (loopConsole fuel session).2.pipeline.routing = .idle := by
  induction fuel generalizing session with
  | zero => exact h
  | succ fuel ih =>
      have hprompted : (takeStdinLine
          { session with stdout := session.stdout ++ session.prompt }).2.pipeline.routing
            = .idle := h
      rw [loopConsole]
      generalize takeStdinLine { session with stdout := session.stdout ++ session.prompt } = taken
        at hprompted ⊢
      rcases taken with ⟨_ | line, prompted⟩
      · exact hprompted
      · have hstep := loopStep_keeps_closed line hprompted
        simp only
        generalize prompted.loopStep line = step at hstep ⊢
        rcases step with ⟨fault | _ | code, after⟩
        · exact hstep
        · exact ih hstep
        · exact hstep

/-- **The pipe is closed between runs.**  Whatever the commands do, a session whose pipe is closed
has it closed again when a range, some ranges, a line or a loop over lines has come to its end or
was broken off, at any depth of lines run by lines.  What is written or read then, outside of any
command, goes to the streams of the session. -/
theorem pipe_closed_between_runs (h : session.pipeline.routing = .idle) :
    (∀ run range, (session.runRange run range).2.AtRest) ∧
    (∀ run skipping ranges, (session.runRanges run skipping ranges).2.AtRest) ∧
    (∀ depth line, (execute depth line session).2.AtRest) ∧
    (∀ depth line, (reporting (execute depth) line session).2.AtRest) ∧
    (∀ lines, (session.runLines lines).1.2.AtRest) ∧
    (∀ answers, (session.runAnswers answers).2.AtRest) ∧
    session.runConsole.2.AtRest := by
  have hlogged : (session.log .loopStarted).pipeline.routing = .idle := h
  refine ⟨?_, ?_, ?_, ?_, ?_, ?_, ?_⟩
  · intro run range
    exact atRest_of_closed (runRange_keeps_closed range h)
  · intro run skipping ranges
    exact atRest_of_closed (runRanges_keeps_closed skipping ranges h)
  · intro depth line
    exact atRest_of_closed (execute_keeps_closed depth line h)
  · intro depth line
    exact atRest_of_closed (reporting_keeps_closed depth line h)
  · intro lines
    exact atRest_of_closed (loopLines_keeps_closed lines hlogged)
  · intro answers
    exact atRest_of_closed (loopAnswers_keeps_closed answers hlogged)
  · exact atRest_of_closed (loopConsole_keeps_closed _ hlogged)

/-- Opens the pipe for itself and moves it on, and runs a line in which it is called again. -/
def reckless : Program :=
  .need .beginPipe fun _ => .need (.advancePipe false) fun _ => .write "lost" <|
    .need (.execute "reckless | exit 3") fun _ => .done .none

/-- A session that has it as a command. -/
def recklessSession : Session where
  commands := Builtin.commands.insert ⟨{ name := "reckless" }, some fun _ => reckless⟩

theorem pipe_closed_after_reckless :
    recklessSession.pipeline.routing = .idle ∧
      (execute 3 "true && reckless | cat" recklessSession).1
        = .error (.defect .nestedTooDeep) ∧
      (execute 3 "true && reckless | cat" recklessSession).2.AtRest ∧
      (recklessSession.runLines ["exit 3 | cat".toList, "reckless".toList]).1.2.AtRest := by
  have hclosed : recklessSession.pipeline.routing = .idle := rfl
  obtain ⟨-, -, hexecute, -, hlines, -⟩ := pipe_closed_between_runs hclosed
  exact ⟨hclosed, by decide +kernel, hexecute 3 _, hlines _⟩

end Session

end PipedShell
