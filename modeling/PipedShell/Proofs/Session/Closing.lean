import PipedShell.Proofs.Session.Launch
import PipedShell.Proofs.Session.Review

/-!
# The pipe after a line

Every range closes the pipe when it ends, and it opens no matter who runs it.  So running a line of
which anything starts leaves the pipe closed, and a line of which nothing starts leaves the whole
pipeline as it was.

* `runRange_closes`, `runRange_keeps_closed` — one range, on open buffers or on a closed pipe.
* `runRest_relates` — what every range keeps of a pipeline is kept by ranges one after another.
* `execute_keeps_closed` — a closed pipe is closed after any line.
* `execute_closes`, `execute_spares` — a line of which a range starts, and all other lines.
-/

namespace PipedShell

namespace Session

variable {run : LineRunner} {session : Session}

/-! ## Ranges -/

/-- A range that gets as far as its first stage closes the pipe. -/
lemma runRange_closes (range : PipeRange) (h : session.pipeline.BuffersOpen) :
    (session.runRange run range).2.pipeline.routing = .idle := by
  rw [runRange_of_open range h]
  rfl

/-- A range on a closed pipe leaves it closed, also when its buffers cannot be emptied. -/
lemma runRange_keeps_closed (range : PipeRange) (h : session.pipeline.routing = .idle) :
    (session.runRange run range).2.pipeline.routing = .idle := by
  have hcleared : (session.onPipeline Pipeline.clearBuffers).2.pipeline.routing = .idle :=
    (Pipeline.routing_clearBuffers session.pipeline).trans h
  rw [runRange]
  split
  · next heq => rwa [heq] at hcleared
  · rfl

/-- What each range keeps of a pipeline is kept by those after the first one, by induction on
them. -/
lemma runRest_relates (keeps : Pipeline → Pipeline → Prop)
    (hrefl : ∀ pipeline, keeps pipeline pipeline)
    (htrans : ∀ {before middle after}, keeps before middle → keeps middle after →
      keeps before after)
    (hrange : ∀ range (session : Session),
      keeps session.pipeline (session.runRange run range).2.pipeline)
    (skipping : Bool) (result : Int) (ranges : List PipeRange) (session : Session) :
    keeps session.pipeline (session.runRest run skipping result ranges).2.pipeline := by
  induction ranges generalizing result session with
  | nil => exact hrefl _
  | cons range ranges ih =>
      have hfirst := hrange range session
      by_cases hskips : (skipping && skips (result == 0) range.boundary) = true
      · rw [runRest, if_pos hskips]
        exact ih _ (session.log (.skipping range.boundary))
      · rw [runRest, if_neg hskips]
        generalize session.runRange run range = ran at hfirst ⊢
        rcases ran with ⟨fault | code | code, after⟩
        · exact hfirst
        · simp only
          split
          · exact htrans hfirst (ih _ after)
          · exact hfirst
        · exact hfirst

lemma runRest_keeps_closed (skipping : Bool) (result : Int) (ranges : List PipeRange)
    (h : session.pipeline.routing = .idle) :
    (session.runRest run skipping result ranges).2.pipeline.routing = .idle :=
  runRest_relates (fun before after => before.routing = .idle → after.routing = .idle)
    (fun _ => id) (fun hfirst hrest hclosed => hrest (hfirst hclosed))
    (fun range _ => runRange_keeps_closed range) skipping result ranges session h

/-- The first range decides whether the pipe is closed after all of them. -/
lemma runRanges_cons_closed (skipping : Bool) (range : PipeRange) (ranges : List PipeRange)
    (h : (session.runRange run range).2.pipeline.routing = .idle) :
    (session.runRanges run skipping (range :: ranges)).2.pipeline.routing = .idle := by
  simp only [runRanges]
  split
  · next heq =>
      rw [heq] at h
      exact runRest_keeps_closed skipping _ ranges h
  · exact h

/-! ## Lines -/

lemma pipeline_conclude (attempt : Attempt Session Outcome) :
    (conclude attempt).2.pipeline = attempt.2.pipeline := by
  obtain ⟨outcome | fault, after⟩ := attempt
  · rfl
  · simp only [conclude, flush]
    split_ifs <;> rfl

lemma pipeline_reporting (line : Text) :
    (reporting run line session).2.pipeline = (run line session).2.pipeline := by
  rw [reporting]
  split
  · next heq =>
      rw [heq]
      simp only [writeError]
      split_ifs <;> rfl
  · rfl

/-- A line of which no range starts leaves the pipeline as it was. -/
lemma runText_spares {line : Text} (h : ¬ ∃ ranges, session.Accepts line ranges) :
    (runText run line session).2.pipeline = session.pipeline := by
  rcases session.review_cases line with ⟨fault, hrefused⟩ | hblank | haccepted
  · rw [runText_of_refuses hrefused]
    rfl
  · rw [runText_of_isBlank hblank]
  · exact absurd haccepted h

lemma runText_keeps_closed (line : Text) (h : session.pipeline.routing = .idle) :
    (runText run line session).2.pipeline.routing = .idle := by
  by_cases haccepted : ∃ ranges, session.Accepts line ranges
  · obtain ⟨ranges, haccepts⟩ := haccepted
    rw [runText_of_accepts haccepts, pipeline_conclude]
    cases ranges with
    | nil => exact h
    | cons range ranges => exact runRanges_cons_closed _ _ _ (runRange_keeps_closed range h)
  · rw [runText_spares haccepted, h]

lemma runText_closes {line : Text} {ranges : List PipeRange}
    (haccepts : session.Accepts line ranges) (h : session.pipeline.BuffersOpen) :
    (runText run line session).2.pipeline.routing = .idle := by
  rw [runText_of_accepts haccepts, pipeline_conclude]
  cases ranges with
  | nil => exact absurd rfl (PipeRange.parse_ne_nil haccepts.reads)
  | cons range ranges => exact runRanges_cons_closed _ _ _ (runRange_closes range h)

/-- A range starts when a line is run, `depth` being the depth of lines that are left. -/
def Starts (depth : Nat) (line : Text) (session : Session) : Prop :=
  0 < depth ∧ ∃ ranges, session.Accepts line ranges

lemma execute_keeps_closed (depth : Nat) (line : Text) (h : session.pipeline.routing = .idle) :
    (execute depth line session).2.pipeline.routing = .idle := by
  cases depth with
  | zero => exact h
  | succ depth => exact runText_keeps_closed line h

lemma execute_closes {depth : Nat} {line : Text} (hstarts : session.Starts depth line)
    (h : session.pipeline.BuffersOpen) :
    (execute depth line session).2.pipeline.routing = .idle := by
  obtain ⟨hdepth, ranges, haccepts⟩ := hstarts
  cases depth with
  | zero => exact absurd hdepth (Nat.lt_irrefl 0)
  | succ depth => exact runText_closes haccepts h

lemma execute_spares {depth : Nat} {line : Text} (h : ¬ session.Starts depth line) :
    (execute depth line session).2.pipeline = session.pipeline := by
  cases depth with
  | zero => rfl
  | succ depth =>
      have hnone : ¬ ∃ ranges, session.Accepts line ranges :=
        fun haccepted => h ⟨Nat.succ_pos depth, haccepted⟩
      exact runText_spares hnone

end Session

end PipedShell
