import PipedShell.Proofs.Pipe.Handover
import PipedShell.Proofs.Session.Review
import PipedShell.Proofs.Session.Tame

/-!
# Lines that leave no trace

A session is *steady* if all its commands are tame, its buffers are open and it has a standard
output.  Whatever lines such a session has run, the next line starts afresh: each range empties the
buffers before it starts, and no command learns the last code.  So two sessions that differ only in
what lies in their buffers and in their last codes run a line in the same way.

* `Session.Steady` — kept by everything that a line does (`Steady.of_keeps`).
* `Session.Agrees` — two sessions that differ in what their buffers hold and in their last codes.
* `runStages_tame`, `runRange_tame`, `runRanges_tame` — the parts of a line come to an outcome, and
  the same one in sessions that agree.
* `Session.Answers` — what a line comes to in a session.
* **`exists_answers`** — a line that is not blank has one answer in all sessions that agree.
-/

namespace PipedShell

/-! ## Moving an open pipe on -/

namespace Pipeline

/-- Once it was moved on, an open pipe leads somewhere. -/
lemma output_next_ne_closed {routing : Routing} (h : routing.opened = true) (last : Bool) :
    (routing.next last).output ≠ .closed := by
  have hopposite : ∀ endpoint : Endpoint, endpoint.opposite ≠ .closed := by
    intro endpoint
    cases endpoint <;> simp [Endpoint.opposite]
  cases last <;> simp [Routing.next, h, hopposite]

/-- Open buffers can be emptied when the pipe is moved on. -/
lemma advance_of_open {pipeline : Pipeline} (h : pipeline.BuffersOpen) (last : Bool) :
    ∃ moved, pipeline.advance last = (.ok (), moved) ∧
      moved.routing = pipeline.routing.next last ∧
      ∀ slot, (moved.buffer slot).emptied = (pipeline.buffer slot).emptied := by
  refine ⟨_, advance_eq_movedOn h last, routing_movedOn last pipeline, fun slot => ?_⟩
  rw [buffer_movedOn]
  split_ifs <;> rfl

end Pipeline

namespace Session

variable {session before after : Session}

/-- Nothing can go wrong in the session. -/
structure Steady (session : Session) : Prop where
  tame : AreTame session.commands
  buffers_open : session.pipeline.BuffersOpen
  attached : session.stdoutAttached = true

lemma Steady.of_keeps (h : before.Steady) (hkeeps : before.Keeps after) : after.Steady where
  tame := by
    rw [hkeeps.commands_eq]
    exact h.tame
  buffers_open := hkeeps.buffersOpen h.buffers_open
  attached := hkeeps.stdoutAttached_eq.trans h.attached

/-! ## Stages and ranges -/

lemma advance_tame (h : session.Steady) (hopened : session.pipeline.opened = true) (last : Bool) :
    ∃ moved, session.Yields (onPipeline (Pipeline.advance last)) (.ok ()) moved ∧
      moved.pipeline.opened = true ∧ moved.Serves := by
  obtain ⟨pipeline, hadvance, hrouting, hbuffers⟩ :=
    Pipeline.advance_of_open h.buffers_open last
  have hkeeps : session.Keeps { session with pipeline } := ⟨rfl, hbuffers⟩
  have hopen : pipeline.opened = true := by
    rw [Pipeline.opened, hrouting, Routing.opened_next]
    exact hopened
  refine ⟨{ session with pipeline }, ⟨hkeeps, fun last => ?_⟩, hopen,
    hkeeps.buffersOpen h.buffers_open, fun _ => ⟨?_, h.attached⟩⟩
  · simp only [onPipeline, withCode, hadvance]
  · simp only [hrouting]
    exact Pipeline.output_next_ne_closed hopened last

/-- **Stages come to an outcome**, by induction on the stages. -/
lemma runStages_tame (run : LineRunner) (code : Int) (stages : List Stage) (h : session.Steady)
    (hopened : session.pipeline.opened = true) :
    ∃ outcome after, session.Yields (runStages run code stages) (.ok outcome) after := by
  induction stages generalizing session code with
  | nil => exact ⟨.proceed code, session, .refl _, fun _ => rfl⟩
  | cons stage stages ih =>
      obtain ⟨moved, hadvance, hopened, hserves⟩ := advance_tame h hopened stages.isEmpty
      have hmoved := h.of_keeps hadvance.keeps
      obtain ⟨result, done, hcommand, hrouting, next, hresult⟩ :=
        runCommand_tame run hmoved.tame hserves stage
      rcases hresult with rfl | rfl
      · have hdone := hmoved.of_keeps hcommand.keeps
        have hstill : done.pipeline.opened = true := by
          rw [Pipeline.opened, hrouting]
          exact hopened
        obtain ⟨outcome, after, hrest⟩ := ih (bitOr code next) hdone hstill
        have hkeeps := (hadvance.keeps.trans hcommand.keeps).trans hrest.keeps
        refine ⟨outcome, after, hkeeps, fun last => ?_⟩
        simp only [runStages, hadvance.yields, hcommand.yields, hrest.yields]
      · refine ⟨.terminate next, done.log (.exitRequested stage.name next),
          (hadvance.keeps.trans hcommand.keeps).trans (.log ..), fun last => ?_⟩
        simp only [runStages, hadvance.yields, hcommand.yields]
        rfl

/-! ## Sessions that agree -/

/-- Two sessions that differ in what their buffers hold and in their last codes. -/
structure Agrees (session other : Session) : Prop where
  others : other = { session with pipeline := other.pipeline, lastCode := other.lastCode }
  buffers : ∀ slot, (other.pipeline.buffer slot).emptied = (session.pipeline.buffer slot).emptied

namespace Agrees

variable {other : Session}

lemma withCode (code : Int) (session : Session) : session.Agrees (session.withCode code) :=
  ⟨rfl, fun _ => rfl⟩

lemma keeps (h : session.Agrees other) : session.Keeps other where
  others := by rw [h.others]
  buffers := h.buffers

lemma log (h : session.Agrees other) (record : Record) :
    (session.log record).Agrees (other.log record) where
  others := by rw [h.others]; rfl
  buffers := h.buffers

/-- The first stage of a range starts in the same session but for the last code. -/
lemma started (h : session.Agrees other) :
    other.started = session.started.withCode other.lastCode := by
  have hfirst : other.pipeline.first.emptied = session.pipeline.first.emptied := h.buffers .first
  have hsecond : other.pipeline.second.emptied = session.pipeline.second.emptied :=
    h.buffers .second
  have hpipeline : other.pipeline.emptied.begin = session.pipeline.emptied.begin := by
    simp only [Pipeline.emptied, Pipeline.begin, hfirst, hsecond]
  rw [Session.started, hpipeline, h.others]
  rfl

end Agrees

lemma Steady.started (h : session.Steady) : session.started.Steady where
  tame := h.tame
  buffers_open := by
    intro slot
    cases slot with
    | first => exact h.buffers_open .first
    | second => exact h.buffers_open .second
  attached := h.attached

lemma Keeps.started (session : Session) : session.Keeps session.started where
  others := rfl
  buffers := by
    intro slot
    cases slot <;> rfl

lemma Keeps.finish (session : Session) :
    session.Keeps { session with pipeline := session.pipeline.finish } where
  others := rfl
  buffers := by
    intro slot
    cases slot <;> rfl

/-- A range comes to the same outcome in all sessions that agree. -/
lemma runRange_tame (run : LineRunner) (range : PipeRange) (h : session.Steady) :
    ∃ outcome after, session.Keeps after ∧ ∀ other, session.Agrees other →
      other.runRange run range = (.ok outcome, after.withCode other.lastCode) := by
  obtain ⟨outcome, ended, hstages⟩ := runStages_tame run 0 range.stages h.started rfl
  refine ⟨outcome, { ended with pipeline := ended.pipeline.finish }, ?_, fun other hother => ?_⟩
  · exact ((Keeps.started session).trans hstages.keeps).trans (.finish ended)
  · have hopen := hother.keeps.buffersOpen h.buffers_open
    rw [runRange_of_open range hopen, hother.started, hstages.yields]
    rfl

/-- The ranges after the first one, by induction on them; each of them has a boundary, so that its
result can be joined to the one before. -/
lemma runRest_tame (run : LineRunner) (skipping : Bool) (result : Int) (ranges : List PipeRange)
    (hboundary : ∀ range ∈ ranges, range.boundary ≠ none) (h : session.Steady) :
    ∃ outcome after, session.Yields (runRest run skipping result ranges) (.ok outcome) after := by
  induction ranges generalizing session result with
  | nil => exact ⟨.proceed result, session, .refl _, fun _ => rfl⟩
  | cons range ranges ih =>
      have hlater := fun range hmem => hboundary range (List.mem_cons_of_mem _ hmem)
      by_cases hskips : (skipping && skips (result == 0) range.boundary) = true
      · have hlogged : session.Keeps (session.log (.skipping range.boundary)) := .log ..
        obtain ⟨outcome, after, hrest⟩ :=
          ih (if result == 0 then 0 else 1) hlater (h.of_keeps hlogged)
        refine ⟨outcome, after, hrest.cons hlogged fun code => ?_⟩
        rw [runRest, if_pos hskips]
        rfl
      · obtain ⟨outcome, done, hkeeps, hrange⟩ := runRange_tame run range h
        have hdone : ∀ code, (session.withCode code).runRange run range
            = (.ok outcome, done.withCode code) := fun code => hrange _ (.withCode code session)
        cases outcome with
        | terminate code =>
            refine ⟨.terminate code, done, hkeeps, fun last => ?_⟩
            rw [runRest, if_neg hskips]
            simp only [hdone]
        | proceed code =>
            obtain ⟨boundary, hboundary⟩ :=
              Option.ne_none_iff_exists'.1 (hboundary range List.mem_cons_self)
            let joined := boundary.join (result == 0) (code == 0)
            obtain ⟨outcome, after, hrest⟩ := ih joined hlater (h.of_keeps hkeeps)
            refine ⟨outcome, after, hrest.cons hkeeps fun last => ?_⟩
            rw [runRest, if_neg hskips]
            simp only [hdone, joinResult, hboundary, joined]

lemma runRanges_tame (run : LineRunner) (skipping : Bool) {ranges : List PipeRange}
    {known : Text → Bool} (hformed : PipeRange.WellFormed known ranges) (h : session.Steady) :
    ∃ outcome after, session.Keeps after ∧ ∀ other, session.Agrees other →
      other.runRanges run skipping ranges = (.ok outcome, after.withCode other.lastCode) := by
  obtain ⟨range, ranges, rfl, -, -⟩ := hformed.exists_cons
  obtain ⟨outcome, done, hkeeps, hrange⟩ := runRange_tame run range h
  cases outcome with
  | terminate code =>
      refine ⟨.terminate code, done, hkeeps, fun other hother => ?_⟩
      simp only [runRanges, hrange other hother]
  | proceed code =>
      obtain ⟨outcome, after, hrest⟩ :=
        runRest_tame run skipping code ranges hformed.later (h.of_keeps hkeeps)
      refine ⟨outcome, after, hkeeps.trans hrest.keeps, fun other hother => ?_⟩
      simp only [runRanges, hrange other hother, hrest.yields]

/-! ## Lines -/

namespace Agrees

variable {other : Session} {line : Text}

lemma accepts {ranges : List PipeRange} (h : session.Agrees other)
    (haccepts : session.Accepts line ranges) : other.Accepts line ranges := by
  rw [h.others]
  exact ⟨⟨haccepts.tokens.fits, haccepts.tokens.quoted, haccepts.tokens.not_blank⟩,
    haccepts.reads, haccepts.few_enough⟩

lemma isBlank (h : session.Agrees other) (hblank : session.IsBlank line) : other.IsBlank line := by
  rw [h.others]
  exact ⟨hblank.fits, hblank.quoted, hblank.blank⟩

lemma refuses {fault : LineFault} (h : session.Agrees other)
    (hrefuses : session.Refuses line fault) : other.Refuses line fault := by
  rw [h.others]
  exact hrefuses.of_same rfl rfl

end Agrees

lemma stdout_writeError (text : Text) (session : Session) :
    (session.writeError text).stdout = session.stdout := by
  rw [writeError]
  split_ifs <;> rfl

lemma lastCode_flush (session : Session) : session.flush.lastCode = session.lastCode := by
  rw [flush]
  split_ifs <;> rfl

/-- What a line comes to in a session: its outcome and the texts of both streams afterwards.  Its
code is then the last code, and the session is steady if it was. -/
structure Answers (session : Session) (line : Text) (outcome : Outcome) (stdout stderr : Text) :
    Prop where
  ends : (session.runLine line).1 = .ok outcome
  writes : (session.runLine line).2.stdout = stdout
  complains : (session.runLine line).2.stderr = stderr
  code : (session.runLine line).2.lastCode = outcome.code
  keeps : session.Keeps (session.runLine line).2

variable {line : Text}

/-- A blank line gives the last code again. -/
lemma answers_of_isBlank (h : session.IsBlank line) :
    session.Answers line (.proceed session.lastCode) session.stdout session.stderr := by
  have hrun : session.run line = (.ok (.proceed session.lastCode), session) :=
    runText_of_isBlank h _
  have hline : session.runLine line = (.ok (.proceed session.lastCode), session) := by
    simp only [runLine, reporting, hrun]
  constructor <;> rw [hline]
  · rfl
  · exact .refl session

/-- A refused line gives the text of its fault. -/
lemma answers_of_refuses {fault : LineFault} (h : session.Refuses line fault) :
    session.Answers line (.proceed 1) session.stdout
      (session.stderr ++ if session.stderrAttached then fault.message ++ "\n" else []) := by
  let logged := (session.logAll (session.readingRecords line)).log (.rejected line fault)
  have hrun : session.run line
      = (.error (.line fault), session.logAll (session.readingRecords line)) :=
    runText_of_refuses h _
  have hline : session.runLine line
      = (.ok (.proceed 1), (logged.writeError (fault.message ++ "\n")).withCode 1) := by
    simp only [runLine, reporting, hrun]
    rfl
  have hlogged : session.Keeps logged := ⟨rfl, fun _ => rfl⟩
  have hreported := hlogged.trans (.writeError (fault.message ++ "\n") logged)
  constructor <;> rw [hline]
  · exact stdout_writeError ..
  · have hstderr := stderr_writeError (fault.message ++ "\n") logged
    rw [stderr_log, stderr_logAll] at hstderr
    exact hstderr
  · rfl
  · exact hreported.trans ((Agrees.withCode 1 _).keeps)

/-- Lines that are accepted, in sessions that agree. -/
lemma exists_answers_of_accepts {ranges : List PipeRange} (h : session.Steady)
    (haccepts : session.Accepts line ranges) :
    ∃ outcome stdout stderr, ∀ other, session.Agrees other →
      other.Answers line outcome stdout stderr := by
  have hformed := (PipeRange.parse_sound haccepts.reads).1
  have hlogged : session.Keeps (session.log (.parsed ranges)) := .log ..
  obtain ⟨runner, hrunner⟩ : ∃ runner, run = runText runner := ⟨_, rfl⟩
  obtain ⟨outcome, ended, hkeeps, hranges⟩ :=
    runRanges_tame runner session.config.shortCircuit hformed (h.of_keeps hlogged)
  let after := flush { ended with lastCode := outcome.code }
  refine ⟨outcome, after.stdout, after.stderr, fun other hother => ?_⟩
  have hconfig : other.config = session.config := by rw [hother.others]
  have hrun : other.run line = (.ok outcome, after) := by
    rw [hrunner, runText_of_accepts (hother.accepts haccepts), hconfig,
      hranges _ (hother.log (.parsed ranges))]
    rfl
  have hline : other.runLine line = (.ok outcome, after) := by
    simp only [runLine, reporting, hrun]
  have hended : session.Keeps ended := hlogged.trans hkeeps
  have hconcluded : ended.Keeps after := (Agrees.withCode outcome.code ended).keeps.trans (.flush _)
  constructor <;> rw [hline]
  · exact lastCode_flush _
  · exact hother.keeps.symm.trans (hended.trans hconcluded)

/-- **A line that is not blank has one answer** in all sessions that agree with a steady one. -/
theorem exists_answers (h : session.Steady) (hblank : ¬ session.IsBlank line) :
    ∃ outcome stdout stderr, ∀ other, session.Agrees other →
      other.Answers line outcome stdout stderr := by
  rcases session.review_cases line with ⟨fault, hrefuses⟩ | hisblank | ⟨ranges, haccepts⟩
  · refine ⟨.proceed 1, session.stdout,
      session.stderr ++ if session.stderrAttached then fault.message ++ "\n" else [],
      fun other hother => ?_⟩
    have hanswers := answers_of_refuses (hother.refuses hrefuses)
    rw [hother.others] at hanswers ⊢
    exact hanswers
  · exact absurd hisblank hblank
  · exact exists_answers_of_accepts h haccepts

end Session

end PipedShell
