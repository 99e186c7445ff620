import PipedShell.Proofs.PipeRange.Grammar
import PipedShell.Proofs.Session.Closing
import PipedShell.Proofs.Session.Steady
import PipedShell.Proofs.Session.Visits

/-!
# Lines whose commands end well

A command may return a code, fail as a whole line does, or ask to leave the shell.  If each command
that a line starts does one of these, and none closes a buffer, then the line comes to an outcome or
is given up, and the next line finds the buffers open again.

* `Launch.EndsWell` — the command of a launched stage is one of these.
* `Session.Settles` — what runs comes to an outcome or is given up, and leaves the buffers open.
* `settles_runStages`, `settles_runRange`, `settles_runRest`, `settles_runText` — the parts of a
  line settle, each by what starts in it.
* **`settles_reporting`** — a line comes to an outcome if its refusals are reported.
-/

namespace PipedShell

namespace Session

/-- The command of a launched stage ends in one of the ways that a shell goes on after, and leaves
the buffers open. -/
inductive Launch.EndsWell (run : LineRunner) (launch : Launch) : Prop
  /-- It is not registered any more. -/
  | missing (unregistered : launch.session.commands.find? launch.stage.name = none)
  /-- It returns nothing, an integer, or something else that stands for a code. -/
  | returns {program : Program} {value : Value} {code : Int} {after : Session}
      (program_of : launch.session.programOf? launch.stage = some program)
      (plays : (launch.session.log (.dispatching launch.stage)).play run program
        = (.ok value, after))
      (stands : value.exitCode = .ok code) (buffers_open : after.pipeline.BuffersOpen)
  /-- It fails as a whole line does. -/
  | fails {program : Program} {fault : LineFault} {after : Session}
      (program_of : launch.session.programOf? launch.stage = some program)
      (plays : (launch.session.log (.dispatching launch.stage)).play run program
        = (.error (.line fault), after))
      (buffers_open : after.pipeline.BuffersOpen)
  /-- It asks to leave the shell. -/
  | leaves {program : Program} {code : Int} {after : Session}
      (program_of : launch.session.programOf? launch.stage = some program)
      (plays : (launch.session.log (.dispatching launch.stage)).play run program
        = (.error (.exit code), after))
      (buffers_open : after.pipeline.BuffersOpen)

/-- It comes to an outcome or is given up as a line, and the buffers are open then. -/
structure Settles (attempt : Attempt Session Outcome) : Prop where
  buffers_open : attempt.2.pipeline.BuffersOpen
  ends : (∃ outcome, attempt.1 = .ok outcome) ∨ ∃ fault, attempt.1 = .error (.line fault)

variable {run : LineRunner} {session : Session}

lemma Settles.ok {outcome : Outcome} (h : session.pipeline.BuffersOpen) :
    Settles (.ok outcome, session) := ⟨h, .inl ⟨outcome, rfl⟩⟩

lemma Settles.given_up {fault : LineFault} (h : session.pipeline.BuffersOpen) :
    Settles (.error (.line fault), session) := ⟨h, .inr ⟨fault, rfl⟩⟩

/-! ## Stages -/

lemma runCommand_of_fails {stage : Stage} {program : Program} {fault : Fault} {after : Session}
    (hprogram : session.programOf? stage = some program)
    (hplay : (session.log (.dispatching stage)).play run program = (.error fault, after)) :
    session.runCommand run stage =
      match fault with
      | .line (.closedPipe detail) =>
        (.ok 1, after.writeError (stage.name ++ ": " ++ detail ++ "\n"))
      | _ => (.error fault, after) := by
  obtain ⟨command, hfind, hstarts⟩ := Option.bind_eq_some_iff.1 hprogram
  obtain ⟨body, hbody, rfl⟩ := Option.map_eq_some_iff.1 hstarts
  have hinvoke : (session.log (.dispatching stage)).invoke run command stage.args
      = (.error fault, after) := by
    simp [invoke, hbody, hplay]
  simp only [runCommand, hfind, hinvoke]
  cases fault with
  | line cause => cases cause <;> rfl
  | exit code => rfl
  | defect cause => rfl

/-- A command that ends well is no defect, and leaves the buffers open. -/
lemma Launch.EndsWell.runCommand {stage : Stage} (h : Launch.EndsWell run ⟨stage, session⟩)
    (hopen : session.pipeline.BuffersOpen) :
    (session.runCommand run stage).2.pipeline.BuffersOpen ∧
      ∀ cause, (session.runCommand run stage).1 ≠ .error (.defect cause) := by
  cases h with
  | missing hnone =>
      rw [Session.runCommand, hnone]
      simp [hopen]
  | returns hprogram hplays hstands hafter =>
      rw [runCommand_of_play hprogram hplays hstands]
      exact ⟨hafter, by simp⟩
  | @fails program fault after hprogram hplays hafter =>
      rw [runCommand_of_fails hprogram hplays]
      cases fault <;> simp [hafter]
  | leaves hprogram hplays hafter =>
      rw [runCommand_of_fails hprogram hplays]
      exact ⟨hafter, by simp⟩

/-- A tame command ends well where it can read and write. -/
lemma endsWell_of_tame {launch : Launch}
    (htame : AreTame launch.session.commands) (hserves : launch.session.Serves) :
    launch.EndsWell run := by
  cases hfind : launch.session.commands.find? launch.stage.name with
  | none => exact .missing hfind
  | some command =>
      obtain ⟨body, hbody, hprograms⟩ := htame command (List.mem_of_find?_eq_some hfind)
      have hprogram : launch.session.programOf? launch.stage = some (body launch.stage.args) := by
        simp [programOf?, hfind, hbody]
      have hlogged : (launch.session.log (.dispatching launch.stage)).Serves :=
        ⟨hserves.buffers_open, hserves.taken⟩
      obtain ⟨result, after, hyields, -, hresult⟩ :=
        play_tame run (hprograms launch.stage.args) hlogged
      have hopen :=
        (hyields.keeps.withCode launch.session.lastCode).buffersOpen hlogged.buffers_open
      cases result with
      | ok value =>
          obtain ⟨code, hcode⟩ := hresult
          exact .returns hprogram hyields.run_eq hcode hopen
      | error fault =>
          obtain ⟨code, rfl⟩ := hresult
          exact .leaves hprogram hyields.run_eq hopen

lemma advance_of_open (h : session.pipeline.BuffersOpen) (last : Bool) :
    ∃ moved, session.onPipeline (Pipeline.advance last) = (.ok (), moved) ∧
      moved.pipeline.BuffersOpen := by
  obtain ⟨moved, hadvance, -, hbuffers⟩ := Pipeline.advance_of_open h last
  refine ⟨{ session with pipeline := moved }, by simp only [onPipeline, hadvance], fun slot => ?_⟩
  exact (congrArg Buffer.closed (hbuffers slot)).trans (h slot)

/-- By induction on the stages: the next one starts only if the one before came to a code. -/
lemma settles_runStages (code : Int) (stages : List Stage) (hopen : session.pipeline.BuffersOpen)
    (hwell : ∀ launch ∈ session.stageLaunches run stages, launch.EndsWell run) :
    Settles (session.runStages run code stages) := by
  induction stages generalizing code session with
  | nil => exact .ok hopen
  | cons stage stages ih =>
      obtain ⟨moved, hadvance, hmoved⟩ := advance_of_open hopen stages.isEmpty
      simp only [stageLaunches, hadvance, List.forall_mem_cons] at hwell
      obtain ⟨hfirst, hlater⟩ := hwell
      obtain ⟨hafter, hsound⟩ := hfirst.runCommand hmoved
      simp only [runStages, hadvance]
      generalize moved.runCommand run stage = ran at hafter hsound hlater ⊢
      rcases ran with ⟨fault | next, after⟩
      · cases fault with
        | line fault => exact .given_up hafter
        | exit asked => exact .ok hafter
        | defect cause => exact absurd rfl (hsound cause)
      · exact ih _ hafter hlater

/-! ## Ranges -/

lemma settles_runRange (range : PipeRange) (hopen : session.pipeline.BuffersOpen)
    (hwell : ∀ launch ∈ session.launches run range, launch.EndsWell run) :
    Settles (session.runRange run range) := by
  have hstarted : session.started.pipeline.BuffersOpen := by
    intro slot
    cases slot with
    | first => exact hopen .first
    | second => exact hopen .second
  rw [launches_of_open range hopen] at hwell
  rw [runRange_of_open range hopen]
  obtain ⟨hafter, hends⟩ := settles_runStages 0 range.stages hstarted hwell
  refine ⟨fun slot => ?_, hends⟩
  cases slot with
  | first => exact hafter .first
  | second => exact hafter .second

/-- By induction on the ranges: all of them have boundaries, so their results can be joined. -/
lemma settles_runRest (skipping : Bool) (place : Nat) (result : Int) (ranges : List PipeRange)
    (hopen : session.pipeline.BuffersOpen) (hjoined : ∀ range ∈ ranges, range.boundary ≠ none)
    (hwell : ∀ visit ∈ session.restVisits run skipping place result ranges,
      ∀ launch ∈ visit.launches run, launch.EndsWell run) :
    Settles (session.runRest run skipping result ranges) := by
  induction ranges generalizing place result session with
  | nil => exact .ok hopen
  | cons range ranges ih =>
      obtain ⟨hboundary, hlater⟩ := List.forall_mem_cons.1 hjoined
      by_cases hskips : (skipping && skips (result == 0) range.boundary) = true
      · rw [restVisits, if_pos hskips] at hwell
        rw [runRest, if_pos hskips]
        exact ih _ _ hopen hlater hwell
      · rw [restVisits, if_neg hskips, List.forall_mem_cons] at hwell
        rw [runRest, if_neg hskips]
        obtain ⟨hfirst, hrest⟩ := hwell
        obtain ⟨hafter, hends⟩ := settles_runRange range hopen hfirst
        obtain ⟨boundary, hsome⟩ := Option.ne_none_iff_exists'.1 hboundary
        generalize session.runRange run range = ran at hafter hends hrest ⊢
        rcases ran with ⟨result' | outcome, after⟩
        · obtain ⟨outcome, houtcome⟩ | ⟨fault, hfault⟩ := hends
          · cases houtcome
          · cases hfault
            exact .given_up hafter
        · cases outcome with
          | terminate code => exact .ok hafter
          | proceed code =>
              simp only [joinResult, hsome] at hrest ⊢
              exact ih _ _ hafter hlater hrest

lemma settles_runRanges (skipping : Bool) (ranges : List PipeRange)
    (hopen : session.pipeline.BuffersOpen)
    (hjoined : ∀ range ∈ ranges.tail, range.boundary ≠ none)
    (hwell : ∀ visit ∈ session.visits run skipping ranges,
      ∀ launch ∈ visit.launches run, launch.EndsWell run) :
    Settles (session.runRanges run skipping ranges) := by
  cases ranges with
  | nil => exact .ok hopen
  | cons range ranges =>
      rw [visits, List.forall_mem_cons] at hwell
      obtain ⟨hfirst, hrest⟩ := hwell
      have hrange := settles_runRange range hopen hfirst
      rw [runRanges]
      generalize session.runRange run range = ran at hrange hrest ⊢
      rcases ran with ⟨fault | code | code, after⟩
      · exact hrange
      · exact settles_runRest skipping 1 code ranges hrange.buffers_open hjoined hrest
      · exact hrange

/-! ## Lines -/

lemma lineLaunches_of_accepts {line : Text} {ranges : List PipeRange}
    (h : session.Accepts line ranges) (run : LineRunner) :
    session.lineLaunches run line =
      ((session.log (.parsed ranges)).visits run session.config.shortCircuit ranges).flatMap
        (Visit.launches run) := by
  have hstages : checkStages (PipeRange.stageCount ranges) session.config.maxPipeStages
      = .ok () := by
    simp [checkStages, Int.not_lt.2 h.few_enough]
  simp only [lineLaunches, checkLine_of_fits h.tokens.fits, readRanges_of_hasTokens h.tokens,
    h.reads, hstages]

lemma Settles.conclude {attempt : Attempt Session Outcome} (h : Settles attempt) :
    Settles (conclude attempt) := by
  refine ⟨by rw [pipeline_conclude]; exact h.buffers_open, ?_⟩
  rcases attempt with ⟨fault | outcome, after⟩
  · exact h.ends
  · exact h.ends

lemma settles_runText (line : Text) (hopen : session.pipeline.BuffersOpen)
    (hwell : ∀ launch ∈ session.lineLaunches run line, launch.EndsWell run) :
    Settles (runText run line session) := by
  rcases session.review_cases line with ⟨fault, hrefused⟩ | hblank | ⟨ranges, haccepts⟩
  · rw [runText_of_refuses hrefused]
    exact .given_up hopen
  · rw [runText_of_isBlank hblank]
    exact .ok hopen
  · rw [lineLaunches_of_accepts haccepts] at hwell
    rw [runText_of_accepts haccepts]
    refine Settles.conclude (settles_runRanges _ ranges hopen ?_ ?_)
    · exact (PipeRange.parse_sound haccepts.reads).1.later
    · exact fun visit hvisit launch hlaunch =>
        hwell launch (List.mem_flatMap.2 ⟨visit, hvisit, hlaunch⟩)

/-- **A line whose commands end well comes to an outcome** when its refusals are reported. -/
lemma settles_reporting (line : Text) (hopen : session.pipeline.BuffersOpen)
    (hwell : ∀ launch ∈ session.lineLaunches run line, launch.EndsWell run) :
    ∃ outcome after, reporting (runText run) line session = (.ok outcome, after) ∧
      after.pipeline.BuffersOpen := by
  obtain ⟨hafter, hends⟩ := settles_runText line hopen hwell
  rw [← pipeline_reporting] at hafter
  simp only [reporting] at hafter ⊢
  generalize runText run line session = ran at hafter hends ⊢
  rcases ran with ⟨fault | outcome, after⟩
  · obtain ⟨outcome, houtcome⟩ | ⟨fault, hfault⟩ := hends
    · cases houtcome
    · cases hfault
      exact ⟨_, _, rfl, hafter⟩
  · exact ⟨_, _, rfl, hafter⟩

end Session

end PipedShell
