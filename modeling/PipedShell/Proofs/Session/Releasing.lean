import PipedShell.Proofs.Pipe.Loans
import PipedShell.Proofs.Session.Nesting
import PipedShell.Proofs.Session.Settling

/-!
# Closing a shell

A shell closes the buffers that belong to it and leaves alone those that are lent to it.  It can be
used further.  If it has a buffer of its own, a line that is accepted fails when its first range is
about to empty the buffers, which is before the pipe is opened and before any command starts.  If
both buffers are lent, closing has no effect at all.

**Buffers.**  Whatever is done with a session, its buffers age (`Pipeline.Ages`): this is proved for
one request, and by induction for programs, for the parts of a line and for lines at any depth
(`ages_execute`).

**Steps.**  `Session.Step` is what the owner of a shell does with it: to run a line, or to close it.
`Session.takeStep` takes a step, `Session.afterSteps` is the session after some of them, and
`Session.endings` is what their lines came to.

* `takeStep_of_closed` — an accepted line on a closed buffer.
* `takeStep_withPipeline` — all other lines are answered whatever the pipeline is like.
* `afterSteps_of_lent` — with lent buffers only, closing can be left out.
* **`close_releases_own`** — all of this for any steps in any order.
-/

namespace PipedShell

namespace Session

variable {run : LineRunner} {session : Session} {depth : ℕ} {line : Text}

/-! ## Buffers age -/

/-- Lines that are run in this way age the buffers and nothing more. -/
def AgesBuffers (run : LineRunner) : Prop :=
  ∀ (line : Text) (session : Session), session.pipeline.Ages (run line session).2.pipeline

lemma ages_write (text : Text) (session : Session) :
    session.pipeline.Ages (session.write text).2.pipeline := by
  rw [write]
  split
  · exact session.pipeline.ages_onBuffer _ fun buffer => buffer.ages_write text
  · split_ifs <;> exact .refl _

lemma ages_read (how : Reading) (session : Session) :
    session.pipeline.Ages (session.read how).2.pipeline := by
  rw [read]
  split
  · exact session.pipeline.ages_onBuffer _ fun buffer => buffer.ages_read how
  · exact .refl _

lemma AgesBuffers.reporting (h : AgesBuffers run) : AgesBuffers (reporting run) := by
  intro line session
  rw [pipeline_reporting]
  exact h line session

lemma ages_answer (h : AgesBuffers run) (request : Request) (session : Session) :
    session.pipeline.Ages (session.answer run request).2.pipeline := by
  cases request with
  | write text => exact ages_write text session
  | writeError text => exact .of_eq (pipeline_writeError text session)
  | read how => exact ages_read how session
  | execute line => exact h line session
  | runLine line => exact h.reporting line session
  | bufferContents =>
      simp only [answer, bufferContents]
      split <;> exact .refl _
  | beginPipe | finishPipe => exact session.pipeline.ages_withRouting _
  | advancePipe last => exact session.pipeline.ages_advance last
  | clearBuffers => exact session.pipeline.ages_clearBuffers
  | closeBuffers => exact session.pipeline.ages_closeBuffers
  | _ => exact .refl _

/-- A program, by induction on it: each request finds the buffers as those before left them. -/
lemma ages_play (h : AgesBuffers run) (program : Program) (session : Session) :
    session.pipeline.Ages (session.play run program).2.pipeline := by
  induction program generalizing session with
  | done | fail => exact .refl _
  | ask request next ih => exact (ages_answer h request session).trans (ih _ _)
  | register name description body next _ ih =>
      exact ih (session.register ⟨{ name, description }, some body⟩)

lemma ages_runCommand (h : AgesBuffers run) (stage : Stage) (session : Session) :
    session.pipeline.Ages (session.runCommand run stage).2.pipeline := by
  cases hprogram : session.programOf? stage with
  | none => exact .of_eq (pipeline_runCommand_of_none hprogram)
  | some program =>
      rw [pipeline_runCommand hprogram]
      exact ages_play h program (session.log (.dispatching stage))

lemma ages_runStages (h : AgesBuffers run) (code : Int) (stages : List Stage)
    (session : Session) : session.pipeline.Ages (runStages run code stages session).2.pipeline := by
  induction stages generalizing code session with
  | nil => exact .refl _
  | cons stage stages ih =>
      have hadvance : session.pipeline.Ages
          (session.onPipeline (Pipeline.advance stages.isEmpty)).2.pipeline :=
        session.pipeline.ages_advance stages.isEmpty
      rw [runStages]
      generalize session.onPipeline (Pipeline.advance stages.isEmpty) = advanced at hadvance ⊢
      rcases advanced with ⟨fault | _, moved⟩
      · exact hadvance
      · have hcommand := hadvance.trans (ages_runCommand h stage moved)
        simp only
        generalize moved.runCommand run stage = ran at hcommand ⊢
        rcases ran with ⟨fault | next, after⟩
        · cases fault <;> exact hcommand
        · exact hcommand.trans (ih _ after)

lemma ages_runRange (h : AgesBuffers run) (range : PipeRange) (session : Session) :
    session.pipeline.Ages (session.runRange run range).2.pipeline := by
  have hcleared : session.pipeline.Ages (session.onPipeline Pipeline.clearBuffers).2.pipeline :=
    session.pipeline.ages_clearBuffers
  rw [runRange]
  generalize session.onPipeline Pipeline.clearBuffers = attempt at hcleared ⊢
  rcases attempt with ⟨fault | _, cleared⟩
  · exact hcleared
  · have hbegun := hcleared.trans (cleared.pipeline.ages_withRouting .started)
    have hstages := hbegun.trans
      (ages_runStages h 0 range.stages { cleared with pipeline := cleared.pipeline.begin })
    exact hstages.trans (Pipeline.ages_withRouting _ .idle)

lemma ages_runRanges (h : AgesBuffers run) (skipping : Bool) (ranges : List PipeRange)
    (session : Session) :
    session.pipeline.Ages (session.runRanges run skipping ranges).2.pipeline := by
  cases ranges with
  | nil => exact .refl _
  | cons range ranges =>
      have hrange := ages_runRange h range session
      rw [runRanges]
      generalize session.runRange run range = ran at hrange ⊢
      rcases ran with ⟨fault | code | code, after⟩
      · exact hrange
      · exact hrange.trans
          (runRest_relates Pipeline.Ages .refl .trans (ages_runRange h) skipping code ranges after)
      · exact hrange

lemma AgesBuffers.runText (h : AgesBuffers run) : AgesBuffers (runText run) := by
  intro line session
  by_cases haccepted : ∃ ranges, session.Accepts line ranges
  · obtain ⟨ranges, haccepts⟩ := haccepted
    rw [runText_of_accepts haccepts, pipeline_conclude]
    exact ages_runRanges h _ ranges (session.log (.parsed ranges))
  · exact .of_eq (runText_spares haccepted)

/-- Lines, by induction on how deep lines can run lines. -/
lemma ages_execute (depth : ℕ) : AgesBuffers (execute depth) := by
  induction depth with
  | zero => exact fun _ _ => .refl _
  | succ depth ih => exact ih.runText

/-! ## Lines on a closed buffer -/

/-- The session after a line was given up because a buffer is closed: as it was, but for the log
record of the ranges and what may have been emptied by then. -/
def givenUp (ranges : List PipeRange) (session : Session) : Session :=
  { session.log (.parsed ranges) with pipeline := session.pipeline.halfEmptied }

@[simp] lemma routing_givenUp (ranges : List PipeRange) (session : Session) :
    (session.givenUp ranges).pipeline.routing = session.pipeline.routing :=
  Pipeline.routing_halfEmptied session.pipeline

@[simp] lemma stderr_givenUp (ranges : List PipeRange) (session : Session) :
    (session.givenUp ranges).stderr = session.stderr := stderr_log (.parsed ranges) session

section Closed

variable {slot : Slot} {ranges : List PipeRange}

lemma runRange_of_closed (run : LineRunner) (range : PipeRange)
    (h : (session.pipeline.buffer slot).closed = true) :
    session.runRange run range = (.error (.defect .closedStream),
      { session with pipeline := session.pipeline.halfEmptied }) := by
  simp only [runRange, onPipeline, Pipeline.clearBuffers_of_closed h]

lemma runText_of_closed (run : LineRunner) (h : (session.pipeline.buffer slot).closed = true)
    (haccepts : session.Accepts line ranges) :
    runText run line session = (.error (.defect .closedStream), session.givenUp ranges) := by
  have hlogged : ((session.log (.parsed ranges)).pipeline.buffer slot).closed = true := h
  rw [runText_of_accepts haccepts]
  cases ranges with
  | nil => exact absurd rfl (PipeRange.parse_ne_nil haccepts.reads)
  | cons range ranges =>
      -- the first range is never skipped, so the line fails whatever the settings are
      rw [runRanges, runRange_of_closed run range hlogged]
      rfl

lemma lineLaunches_of_closed (run : LineRunner) (h : (session.pipeline.buffer slot).closed = true)
    (haccepts : session.Accepts line ranges) : session.lineLaunches run line = [] := by
  have hlogged : ((session.log (.parsed ranges)).pipeline.buffer slot).closed = true := h
  have hopen : ¬ (session.log (.parsed ranges)).pipeline.BuffersOpen := by
    intro hopen
    exact absurd (hlogged.symm.trans (hopen slot)) (by decide)
  rw [lineLaunches_of_accepts haccepts]
  cases ranges with
  | nil => rfl
  | cons range ranges =>
      simp [visits, runRange_of_closed run range hlogged, Visit.launches,
        launches_of_closed range hopen]

end Closed

/-! ## Lines that are not accepted -/

lemma runText_withPipeline (run : LineRunner) (h : ¬ ∃ ranges, session.Accepts line ranges)
    (pipeline : Pipeline) :
    runText run line { session with pipeline } =
      ((runText run line session).1, { (runText run line session).2 with pipeline }) := by
  rcases session.review_cases line with ⟨fault, hrefuses⟩ | hblank | haccepted
  · have hrefuses' : Session.Refuses { session with pipeline } line fault :=
      hrefuses.of_same rfl rfl
    rw [runText_of_refuses hrefuses, runText_of_refuses hrefuses']
    rfl
  · have hblank' : Session.IsBlank { session with pipeline } line :=
      ⟨hblank.fits, hblank.quoted, hblank.blank⟩
    rw [runText_of_isBlank hblank, runText_of_isBlank hblank']
  · exact absurd haccepted h

lemma reporting_withPipeline {pipeline : Pipeline}
    (h : run line { session with pipeline } =
      ((run line session).1, { (run line session).2 with pipeline })) :
    reporting run line { session with pipeline } =
      ((reporting run line session).1, { (reporting run line session).2 with pipeline }) := by
  simp only [reporting, h]
  generalize run line session = ran
  rcases ran with ⟨fault | outcome, after⟩
  · cases fault with
    | line fault => by_cases hattached : after.stderrAttached <;> simp [writeError, log, hattached]
    | exit | defect => rfl
  · rfl

/-! ## Steps -/

/-- What the owner of a shell does with it. -/
inductive Step where
  /-- Runs a line. -/
  | execute (line : Text)
  /-- Runs a line, a refusal being reported. -/
  | runLine (line : Text)
  /-- Closes the shell, which can be done again. -/
  | close
  deriving DecidableEq, Repr

/-- The line that is run in a step. -/
def Step.line? : Step → Option Text
  | execute line | runLine line => some line
  | close => none

/-- Takes a step, `depth` being how deep the line can run lines.  The result is what the line came
to, if one was run. -/
def takeStep (depth : ℕ) (session : Session) : Step → Option (Except Fault Outcome) × Session
  | .execute line => (execute (depth + 1) line session).map some id
  | .runLine line => (reporting (execute (depth + 1)) line session).map some id
  | .close => (none, session.close)

/-- The session after some steps. -/
def afterSteps (depth : ℕ) (session : Session) (steps : List Step) : Session :=
  steps.foldl (fun session step => (session.takeStep depth step).2) session

/-- What the lines of some steps came to, in order. -/
def endings (depth : ℕ) (session : Session) : List Step → List (Except Fault Outcome)
  | [] => []
  | step :: steps =>
    (session.takeStep depth step).1.toList ++ endings depth (session.takeStep depth step).2 steps

lemma ages_takeStep (depth : ℕ) (session : Session) (step : Step) :
    session.pipeline.Ages (session.takeStep depth step).2.pipeline := by
  cases step with
  | execute line => exact ages_execute (depth + 1) line session
  | runLine line => exact (ages_execute (depth + 1)).reporting line session
  | close => exact session.pipeline.ages_closeBuffers

lemma ages_afterSteps (depth : ℕ) (session : Session) (steps : List Step) :
    session.pipeline.Ages (session.afterSteps depth steps).pipeline := by
  induction steps generalizing session with
  | nil => exact .refl _
  | cons step steps ih => exact (ages_takeStep depth session step).trans (ih _)

/-- Once the shell was closed, a buffer of its own is closed, whatever was done before and since. -/
lemma closed_afterSteps {steps : List Step} {slot : Slot} (hclose : .close ∈ steps)
    (howned : (session.pipeline.buffer slot).owned = true) :
    ((session.afterSteps depth steps).pipeline.buffer slot).closed = true := by
  -- the buffer is the shell's own until it is closed, and closed from then on
  obtain ⟨earlier, later, rfl⟩ := List.append_of_mem hclose
  have hearlier := ages_afterSteps depth session earlier slot
  have hlater := ages_afterSteps depth (session.afterSteps depth earlier).close later slot
  have hclosed : ((session.afterSteps depth earlier).close.pipeline.buffer slot).closed = true :=
    Pipeline.closed_closeBuffers (hearlier.owned_eq.trans howned)
  rw [afterSteps, List.foldl_append]
  exact hlater.stays_closed hclosed

/-- An accepted line fails on a closed buffer, reported or not. -/
lemma takeStep_of_closed {step : Step} {slot : Slot} {ranges : List PipeRange}
    (hline : step.line? = some line) (h : (session.pipeline.buffer slot).closed = true)
    (haccepts : session.Accepts line ranges) :
    session.takeStep depth step
      = (some (.error (.defect .closedStream)), session.givenUp ranges) := by
  have hexecute : Session.execute (depth + 1) line session
      = (.error (.defect .closedStream), session.givenUp ranges) :=
    runText_of_closed (Session.execute depth) h haccepts
  cases step with
  | execute text =>
      obtain rfl : text = line := Option.some.inj hline
      rw [takeStep, hexecute]
      rfl
  | runLine text =>
      obtain rfl : text = line := Option.some.inj hline
      simp only [takeStep, reporting, hexecute]
      rfl
  | close => cases hline

/-- A line that is not accepted is answered whatever the pipeline is like, and leaves it alone. -/
lemma takeStep_withPipeline {step : Step} (hline : step.line? = some line)
    (h : ¬ ∃ ranges, session.Accepts line ranges) (pipeline : Pipeline) :
    takeStep depth { session with pipeline } step
      = ((session.takeStep depth step).1, { (session.takeStep depth step).2 with pipeline }) := by
  have hexecute := runText_withPipeline (Session.execute depth) h pipeline
  cases step with
  | execute text =>
      obtain rfl : text = line := Option.some.inj hline
      exact congrArg (Prod.map some id) hexecute
  | runLine text =>
      obtain rfl : text = line := Option.some.inj hline
      exact congrArg (Prod.map some id) (reporting_withPipeline hexecute)
  | close => cases hline

/-- With lent buffers only, steps come to the same without those that close the shell. -/
lemma afterSteps_of_lent (steps : List Step)
    (h : ∀ slot, (session.pipeline.buffer slot).owned = false) :
    session.afterSteps depth steps = session.afterSteps depth (steps.filter (· ≠ .close)) ∧
      session.endings depth steps = session.endings depth (steps.filter (· ≠ .close)) := by
  induction steps generalizing session with
  | nil => exact ⟨rfl, rfl⟩
  | cons step steps ih =>
      have hlent : ∀ slot, ((session.takeStep depth step).2.pipeline.buffer slot).owned = false :=
        fun slot => ((ages_takeStep depth session step) slot).owned_eq.trans (h slot)
      obtain ⟨hafter, hendings⟩ := ih hlent
      by_cases hclose : step = .close
      · have hnothing : session.takeStep depth step = (none, session) := by
          rw [hclose, takeStep, Session.close, Pipeline.closeBuffers_of_lent h]
        rw [hnothing] at hafter hendings
        rw [List.filter_cons_of_neg (by simpa using hclose)]
        refine ⟨?_, ?_⟩
        · rw [afterSteps, List.foldl_cons, hnothing]
          exact hafter
        · rw [endings, hnothing]
          exact hendings
      · rw [List.filter_cons_of_pos (by simpa using hclose)]
        refine ⟨hafter, ?_⟩
        rw [endings, endings, hendings]

/-- **Closing a shell releases the buffers of its own, and lines are turned away then.**  For any
use of a shell, with lines run and the shell closed any number of times and in any order, commands
being free to do anything:

* no lent buffer is closed;
* once the shell was closed, a buffer of its own is closed, and then every accepted line fails for
  the closed buffer before a command starts.  It leaves the session as it was but for the log record
  of its ranges and a lent first buffer, which is emptied.  All other lines come to what they would
  come to with any other pipeline, such as the one before the closing;
* if both buffers are lent, all lines come to the same, and leave the same, as if the shell had not
  been closed. -/
theorem close_releases_own (depth : ℕ) (session : Session) (steps : List Step) :
    let after := session.afterSteps depth steps
    (∀ slot, (session.pipeline.buffer slot).owned = false →
      (after.pipeline.buffer slot).closed = (session.pipeline.buffer slot).closed) ∧
    (∀ slot, (session.pipeline.buffer slot).owned = true → .close ∈ steps →
      (after.pipeline.buffer slot).closed = true ∧
      ∀ (step : Step) line, step.line? = some line →
        (∀ ranges, after.Accepts line ranges →
          after.lineLaunches (execute depth) line = [] ∧
          after.takeStep depth step
            = (some (.error (.defect .closedStream)), after.givenUp ranges) ∧
          (after.givenUp ranges).pipeline.routing = after.pipeline.routing ∧
          (after.givenUp ranges).stderr = after.stderr) ∧
        ((¬ ∃ ranges, after.Accepts line ranges) → ∀ pipeline,
          takeStep depth { after with pipeline } step
            = ((after.takeStep depth step).1,
                { (after.takeStep depth step).2 with pipeline }))) ∧
    ((∀ slot, (session.pipeline.buffer slot).owned = false) →
      after = session.afterSteps depth (steps.filter (· ≠ .close)) ∧
      session.endings depth steps = session.endings depth (steps.filter (· ≠ .close))) := by
  intro after
  have hages : session.pipeline.Ages after.pipeline := ages_afterSteps depth session steps
  refine ⟨fun slot => (hages slot).lent_spared, fun slot howned hclose => ?_, fun hlent => ?_⟩
  · have hclosed : (after.pipeline.buffer slot).closed = true := closed_afterSteps hclose howned
    refine ⟨hclosed, fun step line hline => ⟨fun ranges haccepts => ?_, fun hnot pipeline => ?_⟩⟩
    · exact ⟨lineLaunches_of_closed _ hclosed haccepts,
        takeStep_of_closed hline hclosed haccepts, routing_givenUp ranges after,
        stderr_givenUp ranges after⟩
    · exact takeStep_withPipeline hline hnot pipeline
  · exact afterSteps_of_lent steps hlent

/-- A session with one buffer lent to it and one of its own, and a command that writes. -/
def halfLent : Session where
  commands := .ofList [⟨{ name := "a" }, some fun _ => .write "said" (.result 0)⟩]
  pipeline := .ofLoans (some "kept") none

/-- Lines before and after the shell is closed, and it is closed again. -/
def closedTwice : List Step := [.execute "a | a", .close, .runLine "b", .close]

lemma halfLent_accepts :
    (halfLent.afterSteps 2 closedTwice).Accepts "a | a"
      [{ boundary := none, stages := [⟨"a", []⟩, ⟨"a", []⟩] }] where
  tokens := ⟨by decide +kernel, by decide +kernel, by decide +kernel⟩
  reads := by decide +kernel
  few_enough := by decide +kernel

lemma halfLent_refuses :
    ¬ ∃ ranges, (halfLent.afterSteps 2 closedTwice).Accepts "b" ranges := by
  rintro ⟨ranges, haccepts⟩
  have hgrammar : (halfLent.afterSteps 2 closedTwice).grammar "b"
      = .error (.unknownCommand "b") := by decide +kernel
  exact absurd (hgrammar.symm.trans haccepts.reads) (by simp)

theorem close_releases_own_halfLent :
    let after := halfLent.afterSteps 2 closedTwice
    let lent : Session := { halfLent with pipeline := .ofLoans (some "kept") (some "") }
    ((halfLent.pipeline.buffer .first).owned = false ∧
      (after.pipeline.buffer .first).closed = (halfLent.pipeline.buffer .first).closed) ∧
    ((halfLent.pipeline.buffer .second).owned = true ∧ .close ∈ closedTwice ∧
      (after.pipeline.buffer .second).closed = true) ∧
    ((∃ ranges, after.Accepts "a | a" ranges) ∧
      (after.takeStep 2 (.runLine "a | a")).1 = some (.error (.defect .closedStream))) ∧
    ((¬ ∃ ranges, after.Accepts "b" ranges) ∧
      (takeStep 2 { after with pipeline := halfLent.pipeline } (.execute "b")).1
        = (after.takeStep 2 (.execute "b")).1) ∧
    ((∀ slot, (lent.pipeline.buffer slot).owned = false) ∧
      lent.endings 2 closedTwice = lent.endings 2 [.execute "a | a", .runLine "b"]) := by
  intro after lent
  have hlent : ∀ slot, (lent.pipeline.buffer slot).owned = false := by
    intro slot
    cases slot <;> rfl
  have hclose : .close ∈ closedTwice := by decide
  obtain ⟨hspared, hreleased, -⟩ := close_releases_own 2 halfLent closedTwice
  obtain ⟨hclosed, hlines⟩ := hreleased .second rfl hclose
  have haway := (hlines (.runLine "a | a") "a | a" rfl).1 _ halfLent_accepts
  have hrefused := (hlines (.execute "b") "b" rfl).2 halfLent_refuses halfLent.pipeline
  have hsame := (close_releases_own 2 lent closedTwice).2.2 hlent
  refine ⟨⟨rfl, hspared .first rfl⟩, ⟨rfl, hclose, hclosed⟩, ⟨⟨_, halfLent_accepts⟩, ?_⟩,
    ⟨halfLent_refuses, ?_⟩, hlent, hsame.2⟩
  · exact (Prod.ext_iff.1 haway.2.1).1
  · exact (Prod.ext_iff.1 hrefused).1

end Session

end PipedShell
