import PipedShell.Proofs.Session.Steady

/-!
# Which parts of a line run

A range is skipped for the result before it, and none runs after a command that leaves the shell.
So the stages that start are only some of those of a line.  This file follows the recursion over the
ranges and names them, and says that among them are all that decide whether the shell is left.

* `Session.visits` — the ranges that run, each with its place among all of them and the session in
  which it runs.
* `Session.lineLaunches` — the stages that start when a line runs, each with the session in which it
  starts; `Session.startedStages` is the stages alone.
* `Launch.asks?` — the code with which the command of a launched stage asks to leave.
* `asked_runStages`, `asked_runRange`, `asked_runRest` — the parts of a line leave for the first
  command that asks to.
* **`asked_reporting`** — so does a line, whatever the commands are.
* `keeps_of_mem_visits`, `keeps_of_mem_lineLaunches` — in a steady session, every range runs and
  every stage starts in a session that is steady too.
-/

namespace PipedShell

namespace Session

/-! ## Ranges that run -/

/-- A range that runs: its place among the ranges of its line, and the session in which it runs. -/
structure Visit where
  place : Nat
  range : PipeRange
  session : Session

/-- The stages that start in a range that runs. -/
def Visit.launches (run : LineRunner) (visit : Visit) : List Launch :=
  visit.session.launches run visit.range

/-- The ranges after the first one that run, `place` being the place of the next one and `result`
the result so far. -/
def restVisits (run : LineRunner) (skipping : Bool) (place : Nat) (result : Int) :
    List PipeRange → Session → List Visit
  | [], _ => []
  | range :: ranges, session =>
    if skipping && skips (result == 0) range.boundary then
      restVisits run skipping (place + 1) (if result == 0 then 0 else 1) ranges
        (session.log (.skipping range.boundary))
    else ⟨place, range, session⟩ ::
      match session.runRange run range with
      | (.ok (.proceed code), after) =>
        match joinResult range.boundary result code with
        | .ok joined => restVisits run skipping (place + 1) joined ranges after
        | .error _ => []
      | (.ok (.terminate _), _) => []
      | (.error _, _) => []

/-- The ranges of some that run. -/
def visits (run : LineRunner) (skipping : Bool) (ranges : List PipeRange) (session : Session) :
    List Visit :=
  match ranges with
  | [] => []
  | range :: ranges => ⟨0, range, session⟩ ::
    match session.runRange run range with
    | (.ok (.proceed code), after) => restVisits run skipping 1 code ranges after
    | (.ok (.terminate _), _) => []
    | (.error _, _) => []

/-- The stages of a line that start. -/
def lineLaunches (run : LineRunner) (line : Text) (session : Session) : List Launch :=
  match checkLine line session.config.maxInputChars, session.readRanges line with
  | .ok (), .ok ranges =>
    match checkStages (PipeRange.stageCount ranges) session.config.maxPipeStages with
    | .ok () =>
      ((session.log (.parsed ranges)).visits run session.config.shortCircuit ranges).flatMap
        (Visit.launches run)
    | .error _ => []
  | _, _ => []

/-! ## Leaving the shell -/

/-- The code with which something that was run leaves the shell, if it does. -/
def asked? : Except Fault Outcome → Option Int
  | .ok (.terminate code) => some code
  | _ => none

/-- The code with which the command of a launched stage asks to leave the shell, if it does. -/
def Launch.asks? (run : LineRunner) (launch : Launch) : Option Int :=
  match (launch.session.runCommand run launch.stage).1 with
  | .error (.exit code) => some code
  | _ => none

variable {run : LineRunner}

/-- Stages leave for the first command that asks to, by induction on the stages: none starts after
it. -/
lemma asked_runStages (code : Int) (stages : List Stage) (session : Session) :
    asked? (session.runStages run code stages).1
      = (session.stageLaunches run stages).findSome? (Launch.asks? run) := by
  induction stages generalizing code session with
  | nil => rfl
  | cons stage stages ih =>
      simp only [runStages, stageLaunches]
      rcases session.onPipeline (Pipeline.advance stages.isEmpty) with ⟨fault | _, moved⟩
      · rfl
      · simp only [List.findSome?_cons, Launch.asks?]
        rcases moved.runCommand run stage with ⟨fault | next, after⟩
        · cases fault <;> rfl
        · exact ih (bitOr code next) after

lemma asked_runRange (range : PipeRange) (session : Session) :
    asked? (session.runRange run range).1
      = (session.launches run range).findSome? (Launch.asks? run) := by
  simp only [runRange, launches]
  rcases session.onPipeline Pipeline.clearBuffers with ⟨fault | _, cleared⟩
  · rfl
  · exact asked_runStages ..

lemma asked_runRest (skipping : Bool) (place : Nat) (result : Int) (ranges : List PipeRange)
    (session : Session) :
    asked? (session.runRest run skipping result ranges).1
      = ((session.restVisits run skipping place result ranges).flatMap
          (Visit.launches run)).findSome? (Launch.asks? run) := by
  induction ranges generalizing place result session with
  | nil => rfl
  | cons range ranges ih =>
      by_cases hskips : (skipping && skips (result == 0) range.boundary) = true
      · rw [runRest, restVisits, if_pos hskips, if_pos hskips]
        exact ih ..
      · have hrange : asked? (session.runRange run range).1 = _ := asked_runRange range session
        rw [runRest, restVisits, if_neg hskips, if_neg hskips, List.flatMap_cons,
          List.findSome?_append, Visit.launches, ← hrange]
        rcases session.runRange run range with ⟨fault | code | code, after⟩
        · rfl
        · simp only
          rcases joinResult range.boundary result code with fault | joined
          · rfl
          · exact ih ..
        · rfl

lemma asked_runRanges (skipping : Bool) (ranges : List PipeRange) (session : Session) :
    asked? (session.runRanges run skipping ranges).1
      = ((session.visits run skipping ranges).flatMap
          (Visit.launches run)).findSome? (Launch.asks? run) := by
  cases ranges with
  | nil => rfl
  | cons range ranges =>
      have hrange : asked? (session.runRange run range).1 = _ := asked_runRange range session
      rw [runRanges, visits, List.flatMap_cons, List.findSome?_append, Visit.launches, ← hrange]
      rcases session.runRange run range with ⟨fault | code | code, after⟩
      · rfl
      · exact asked_runRest ..
      · rfl

lemma asked_runText (line : Text) (session : Session) :
    asked? (runText run line session).1
      = (session.lineLaunches run line).findSome? (Launch.asks? run) := by
  simp only [runText, lineLaunches]
  rcases checkLine line session.config.maxInputChars with fault | _
  · rfl
  · rcases session.readRanges line with fault | ranges
    · rfl
    · cases ranges with
      | nil =>
          simp only
          rcases checkStages _ _ with fault | _ <;> rfl
      | cons range ranges =>
          simp only
          rcases checkStages _ _ with fault | _
          · rfl
          · rw [← asked_runRanges]
            rcases runRanges _ _ _ _ with ⟨fault | outcome, after⟩ <;> rfl

/-- **A line leaves the shell for the first command that asks to**, and goes on if there is none.
Lines that are refused or fail start no such command. -/
theorem asked_reporting (line : Text) (session : Session) :
    asked? (reporting (runText run) line session).1
      = (session.lineLaunches run line).findSome? (Launch.asks? run) := by
  rw [← asked_runText, reporting]
  rcases runText run line session with ⟨fault | outcome, after⟩
  · cases fault <;> rfl
  · rfl

/-- The stages that start when a session runs a line, in order. -/
def startedStages (line : Text) (session : Session) : List Stage :=
  (session.lineLaunches (execute (maxDepth - 1)) line).map (·.stage)

/-! ## In a steady session -/

variable {session : Session}

lemma Keeps.withCode {after : Session} (h : session.Keeps after) (code : Int) :
    session.Keeps (after.withCode code) :=
  h.trans (Agrees.withCode code after).keeps

/-- What an action comes to, with the last code that there is. -/
lemma Yields.run_eq {α : Type} {act : Session → Attempt Session α} {result : Except Fault α}
    {after : Session} (h : session.Yields act result after) :
    act session = (result, after.withCode session.lastCode) := h.yields session.lastCode

/-- Stages start in sessions in which commands can read and write, by induction on the stages. -/
lemma keeps_of_mem_stageLaunches (stages : List Stage) (h : session.Steady)
    (hopened : session.pipeline.opened = true) :
    ∀ launch ∈ session.stageLaunches run stages,
      session.Keeps launch.session ∧ launch.session.Serves := by
  induction stages generalizing session with
  | nil => simp [stageLaunches]
  | cons stage stages ih =>
      obtain ⟨moved, hadvance, hmoved, hserves⟩ := advance_tame h hopened stages.isEmpty
      have hserves' := hserves.withCode session.lastCode
      have hkeeps := hadvance.keeps.withCode session.lastCode
      have hsteady := h.of_keeps hkeeps
      obtain ⟨result, done, hcommand, hrouting, next, hresult⟩ :=
        runCommand_tame run hsteady.tame hserves' stage
      simp only [stageLaunches, hadvance.run_eq, hcommand.run_eq, List.forall_mem_cons]
      refine ⟨⟨hkeeps, hserves'⟩, ?_⟩
      rcases hresult with rfl | rfl
      · have hdone := hcommand.keeps.withCode session.lastCode
        intro launch hmem
        obtain ⟨hlater, hlaunch⟩ := ih (hsteady.of_keeps hdone)
          ((congrArg Routing.opened hrouting).trans hmoved) launch hmem
        exact ⟨(hkeeps.trans hdone).trans hlater, hlaunch⟩
      · simp

lemma keeps_of_mem_launches (range : PipeRange) (h : session.Steady) :
    ∀ launch ∈ session.launches run range,
      session.Keeps launch.session ∧ launch.session.Serves := by
  rw [launches_of_open range h.buffers_open]
  intro launch hmem
  obtain ⟨hkeeps, hserves⟩ := keeps_of_mem_stageLaunches range.stages h.started rfl launch hmem
  exact ⟨(Keeps.started session).trans hkeeps, hserves⟩

lemma runRange_steady (run : LineRunner) (range : PipeRange) (h : session.Steady) :
    ∃ outcome after, session.runRange run range = (.ok outcome, after) ∧ session.Keeps after := by
  obtain ⟨outcome, after, hkeeps, hrange⟩ := runRange_tame run range h
  exact ⟨outcome, _, hrange session (.withCode session.lastCode session), hkeeps.withCode _⟩

lemma keeps_of_mem_restVisits (skipping : Bool) (place : Nat) (result : Int)
    (ranges : List PipeRange) (h : session.Steady) :
    ∀ visit ∈ session.restVisits run skipping place result ranges,
      session.Keeps visit.session := by
  induction ranges generalizing place result session with
  | nil => simp [restVisits]
  | cons range ranges ih =>
      by_cases hskips : (skipping && skips (result == 0) range.boundary) = true
      · have hlogged : session.Keeps (session.log (.skipping range.boundary)) := .log ..
        rw [restVisits, if_pos hskips]
        intro visit hmem
        exact hlogged.trans (ih _ _ (h.of_keeps hlogged) visit hmem)
      · obtain ⟨outcome, after, hrange, hkeeps⟩ := runRange_steady run range h
        simp only [restVisits, if_neg hskips, hrange, List.forall_mem_cons]
        refine ⟨.refl session, ?_⟩
        cases outcome with
        | terminate code => simp
        | proceed code =>
            simp only
            cases joinResult range.boundary result code with
            | error fault => simp
            | ok joined =>
                intro visit hmem
                exact hkeeps.trans (ih _ _ (h.of_keeps hkeeps) visit hmem)

lemma keeps_of_mem_visits (skipping : Bool) (ranges : List PipeRange) (h : session.Steady) :
    ∀ visit ∈ session.visits run skipping ranges, session.Keeps visit.session := by
  cases ranges with
  | nil => simp [visits]
  | cons range ranges =>
      obtain ⟨outcome, after, hrange, hkeeps⟩ := runRange_steady run range h
      simp only [visits, hrange, List.forall_mem_cons]
      refine ⟨.refl session, ?_⟩
      cases outcome with
      | terminate code => simp
      | proceed code =>
          intro visit hmem
          exact hkeeps.trans (keeps_of_mem_restVisits _ _ _ _ (h.of_keeps hkeeps) visit hmem)

/-- In a steady session the stages of a line start in sessions in which commands can read and
write. -/
lemma keeps_of_mem_lineLaunches (line : Text) (h : session.Steady) :
    ∀ launch ∈ session.lineLaunches run line,
      session.Keeps launch.session ∧ launch.session.Serves := by
  rw [lineLaunches]
  split
  · next ranges _ _ =>
      split
      · intro launch hmem
        obtain ⟨visit, hvisit, hlaunch⟩ := List.mem_flatMap.1 hmem
        have hlogged : session.Keeps (session.log (.parsed ranges)) := .log ..
        have hsteady := h.of_keeps hlogged
        have hbefore := keeps_of_mem_visits _ _ hsteady visit hvisit
        obtain ⟨hkeeps, hserves⟩ :=
          keeps_of_mem_launches visit.range (hsteady.of_keeps hbefore) launch hlaunch
        exact ⟨(hlogged.trans hbefore).trans hkeeps, hserves⟩
      · simp
  · simp

/-- A line has an answer in every steady session, blank or not. -/
lemma exists_answers_of_steady (h : session.Steady) (line : Text) :
    ∃ outcome stdout stderr, session.Answers line outcome stdout stderr := by
  by_cases hblank : session.IsBlank line
  · exact ⟨_, _, _, answers_of_isBlank hblank⟩
  · obtain ⟨outcome, stdout, stderr, hanswers⟩ := exists_answers h hblank
    exact ⟨outcome, stdout, stderr, hanswers session (.withCode session.lastCode session)⟩

end Session

end PipedShell
