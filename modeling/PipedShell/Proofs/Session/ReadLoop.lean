import PipedShell.Builtin
import PipedShell.Proofs.Builtin.Tame
import PipedShell.Proofs.Session.Settling
import PipedShell.Proofs.Token.Spelling
import PipedShell.Session.Loop

/-!
# The read loop as a fold

A shell that reads lines passes over the blank ones and runs each of the others once, in the session
that the one before left, until one of them leaves the shell or there are no more.  Its own code is
then the last code of the session, which every line sets to the code of its outcome.

* `Session.Runs` — lines that run one after another, and what each comes to.
* `Session.loopLaunches` — the stages that start in a loop.
* `lastCode_execute`, `lastCode_reporting` — a line that comes to an outcome leaves its code behind.
* `Runs.lastCode` — so the last code is that of the last line, or the one before the loop.
* `runLine_of_spaces` — a line of white space changes nothing, so that it can be passed over.
* **`read_loop_folds`** — a loop runs the lines that are not blank, up to the first that leaves the
  shell.
-/

namespace PipedShell

namespace Session

variable {session after : Session}

/-! ## The last code -/

lemma lastCode_runText {run : LineRunner} {line : Text} {outcome : Outcome}
    (h : runText run line session = (.ok outcome, after)) : after.lastCode = outcome.code := by
  rcases session.review_cases line with ⟨fault, hrefused⟩ | hblank | ⟨ranges, haccepts⟩
  · rw [runText_of_refuses hrefused] at h
    cases h
  · rw [runText_of_isBlank hblank] at h
    cases h
    rfl
  · rw [runText_of_accepts haccepts] at h
    generalize runRanges _ _ _ _ = ran at h
    rcases ran with ⟨fault | ended, done⟩
    · cases h
    · cases h
      exact lastCode_flush _

lemma lastCode_execute {depth : Nat} {line : Text} {outcome : Outcome}
    (h : execute depth line session = (.ok outcome, after)) : after.lastCode = outcome.code := by
  cases depth with
  | zero => cases h
  | succ depth => exact lastCode_runText h

/-- A refusal that is reported leaves the code that it is reported with. -/
lemma lastCode_reporting {depth : Nat} {line : Text} {outcome : Outcome}
    (h : reporting (execute depth) line session = (.ok outcome, after)) :
    after.lastCode = outcome.code := by
  rw [reporting] at h
  split at h
  · cases h
    rfl
  · exact lastCode_execute h

/-! ## Lines one after another -/

/-- Lines run one after another, each in the session that the one before left; they come to these
outcomes. -/
inductive Runs : Session → List (Text × Outcome) → Session → Prop
  | nil (session : Session) : Runs session [] session
  | cons {session middle after : Session} {line : Text} {outcome : Outcome}
      {ran : List (Text × Outcome)} (first : session.runLine line = (.ok outcome, middle))
      (later : Runs middle ran after) : Runs session ((line, outcome) :: ran) after

/-- The code of the last line, and of none the code before. -/
lemma Runs.lastCode {ran : List (Text × Outcome)} (h : Runs session ran after) :
    after.lastCode = (ran.getLast?.map fun entry => entry.2.code).getD session.lastCode := by
  induction h with
  | nil session => rfl
  | @cons session middle after line outcome ran hfirst _ ih =>
      rw [ih, lastCode_reporting hfirst]
      cases ran with
      | nil => rfl
      | cons entry ran => simp [List.getLast?_cons]

/-- The lines that are not blank. -/
def nonBlank (lines : List Text) : List Text := lines.filter fun line => !line.allBlank

/-- The stages that start when a loop runs lines. -/
def loopLaunches : List Text → Session → List Launch
  | [], _ => []
  | line :: lines, session =>
    if line.allBlank then loopLaunches lines session
    else session.lineLaunches (execute (maxDepth - 1)) line ++
      match session.runLine line with
      | (.ok (.proceed _), after) => loopLaunches lines after
      | _ => []

/-- A loop over lines runs each of them that is not blank once, in order, up to the first one that
leaves the shell.  Its result is a code, the session, and the lines that are not asked for. -/
inductive Folds (lines : List Text) (session : Session) :
    Attempt Session Int × List (Option Text) → Prop
  /-- No line leaves the shell: the code is the last one, and no line is left. -/
  | exhausted {ran : List (Text × Outcome)} {after : Session} (runs : Runs session ran after)
      (lines_run : ran.map Prod.fst = nonBlank lines)
      (go_on : ∀ entry ∈ ran, entry.2.isTerminate = false) :
      Folds lines session ((.ok after.lastCode, after.log (.loopFinished after.lastCode)), [])
  /-- A line leaves the shell with a code. -/
  | left {before rest : List Text} {line : Text} {ran : List (Text × Outcome)} {code : Int}
      {after : Session} (split : lines = before ++ line :: rest)
      (not_blank : line.allBlank = false)
      (runs : Runs session (ran ++ [(line, .terminate code)]) after)
      (lines_run : ran.map Prod.fst = nonBlank before)
      (go_on : ∀ entry ∈ ran, entry.2.isTerminate = false) :
      Folds lines session ((.ok code, after.log (.loopFinished code)), rest.map some)

namespace Folds

variable {line : Text} {lines : List Text} {result : Attempt Session Int × List (Option Text)}

lemma cons_blank (h : Folds lines session result) (hblank : line.allBlank = true) :
    Folds (line :: lines) session result := by
  cases h with
  | exhausted hruns hlines hgo =>
      refine .exhausted hruns ?_ hgo
      simpa [nonBlank, hblank] using hlines
  | @left before rest last ran code after hsplit hnot hruns hlines hgo =>
      refine @left _ _ (line :: before) rest last ran code after ?_ hnot hruns ?_ hgo
      · rw [hsplit, List.cons_append]
      · simpa [nonBlank, hblank] using hlines

lemma cons_proceed {code : Int} {middle : Session} (h : Folds lines middle result)
    (hblank : line.allBlank = false) (hrun : session.runLine line = (.ok (.proceed code), middle)) :
    Folds (line :: lines) session result := by
  cases h with
  | exhausted hruns hlines hgo =>
      refine .exhausted (.cons hrun hruns) ?_ (List.forall_mem_cons.2 ⟨rfl, hgo⟩)
      simp [nonBlank, hblank, hlines]
  | @left before rest last ran asked after hsplit hnot hruns hlines hgo =>
      refine @left _ _ (line :: before) rest last ((line, .proceed code) :: ran) asked after ?_ hnot
        (.cons hrun hruns) ?_ (List.forall_mem_cons.2 ⟨rfl, hgo⟩)
      · rw [hsplit, List.cons_append]
      · simp [nonBlank, hblank, hlines]

end Folds

lemma runLine_settles (line : Text) (hopen : session.pipeline.BuffersOpen)
    (hwell : ∀ launch ∈ session.lineLaunches (execute (maxDepth - 1)) line,
      launch.EndsWell (execute (maxDepth - 1))) :
    ∃ outcome after, session.runLine line = (.ok outcome, after) ∧ after.pipeline.BuffersOpen :=
  settles_reporting line hopen hwell

/-- By induction on the lines; what carries it is that the buffers stay open. -/
lemma folds_loopLines (lines : List Text) (hopen : session.pipeline.BuffersOpen)
    (hwell : ∀ launch ∈ session.loopLaunches lines, launch.EndsWell (execute (maxDepth - 1))) :
    Folds lines session (loopLines (lines.map some) session) := by
  induction lines generalizing session with
  | nil => exact .exhausted (.nil session) rfl (by simp)
  | cons line lines ih =>
      rw [List.map_cons, loopLines]
      cases hblank : line.allBlank with
      | true =>
          rw [loopLaunches, if_pos hblank] at hwell
          simp only [loopStep, hblank, if_true]
          exact (ih hopen hwell).cons_blank hblank
      | false =>
          simp only [loopLaunches, hblank, Bool.false_eq_true, if_false, List.forall_mem_append]
            at hwell
          obtain ⟨hfirst, hlater⟩ := hwell
          obtain ⟨outcome, after, hrun, hafter⟩ := runLine_settles line hopen hfirst
          cases outcome with
          | proceed code =>
              simp only [hrun] at hlater
              simp only [loopStep, hblank, Bool.false_eq_true, if_false, hrun]
              exact (ih hafter hlater).cons_proceed hblank hrun
          | terminate code =>
              simp only [loopStep, hblank, Bool.false_eq_true, if_false, hrun]
              exact @Folds.left _ _ [] lines line [] code after rfl hblank
                (.cons hrun (.nil after)) rfl (by simp)

/-! ## Lines of white space -/

lemma tokenize_of_separators {line : Text} (h : ∀ c ∈ line, isSeparator c = true) :
    tokenize line = ⟨[], none⟩ := by
  rw [tokenize]
  induction line with
  | nil => rfl
  | cons c line ih =>
      obtain ⟨hfirst, hrest⟩ := List.forall_mem_cons.1 h
      rw [scan_separator hfirst, ih hrest]
      rfl

/-- A line of white space that fits changes nothing. -/
lemma runLine_of_spaces {line : Text} (hspaces : ∀ c ∈ line, isLineSpace c = true)
    (hfits : session.Fits line) :
    session.runLine line = (.ok (.proceed session.lastCode), session) := by
  have htokens : tokenize line = ⟨[], none⟩ :=
    tokenize_of_separators fun c hmem => by simp [isSeparator, hspaces c hmem]
  have hblank : session.IsBlank line := ⟨hfits, by rw [htokens], by rw [htokens]⟩
  have hrun : run line session = (.ok (.proceed session.lastCode), session) :=
    runText_of_isBlank hblank _
  rw [runLine, reporting, hrun]

/-! ## Loops -/

/-- All commands of a steady session end well, whatever lines it reads. -/
lemma Steady.endsWell_loopLaunches (h : session.Steady) (lines : List Text) :
    ∀ launch ∈ session.loopLaunches lines, launch.EndsWell (execute (maxDepth - 1)) := by
  induction lines generalizing session with
  | nil => simp [loopLaunches]
  | cons line lines ih =>
      cases hblank : line.allBlank with
      | true =>
          rw [loopLaunches, if_pos hblank]
          exact ih h
      | false =>
          simp only [loopLaunches, hblank, Bool.false_eq_true, if_false, List.forall_mem_append]
          constructor
          · intro launch hmem
            obtain ⟨hkeeps, hserves⟩ := keeps_of_mem_lineLaunches line h launch hmem
            exact endsWell_of_tame (h.of_keeps hkeeps).tame hserves
          · obtain ⟨outcome, stdout, stderr, hanswers⟩ := exists_answers_of_steady h line
            have hafter := h.of_keeps hanswers.keeps
            have hends := hanswers.ends
            generalize session.runLine line = ran at hafter hends ⊢
            rcases ran with ⟨fault | code | code, after⟩
            · simp
            · exact ih hafter
            · simp

/-- **The read loop is a fold of lines.**  Take a session with open buffers and any lines, such that
the commands that start return a code, fail as a line does or leave the shell, and close no buffer.
The loop runs each line that is not blank once, in order, up to the first one that leaves the shell;
its code is then the code of the loop, and no further line is asked for.  If there is none, all
lines are used up, and the code of the loop is the last code.  Every line that comes to an outcome,
nested or not, leaves the code of that outcome as the last code, so this is the code of the last
line, or the code before the loop.  Passing over a line of white space is not seen, since running it
would change nothing. -/
theorem read_loop_folds {lines : List Text} (hopen : session.pipeline.BuffersOpen)
    (hwell : ∀ launch ∈ (session.log .loopStarted).loopLaunches lines,
      launch.EndsWell (execute (maxDepth - 1))) :
    Folds lines (session.log .loopStarted) (session.runLines (lines.map some)) ∧
    (∀ s ran after, Runs s ran after →
      after.lastCode = (ran.getLast?.map fun entry => entry.2.code).getD s.lastCode) ∧
    (∀ depth line s outcome after,
      execute depth line s = (.ok outcome, after) ∨
        reporting (execute depth) line s = (.ok outcome, after) →
      after.lastCode = outcome.code) ∧
    ∀ line s, (∀ c ∈ line, isBlank c = true ∧ isLineSpace c = true) → Fits s line →
      s.loopStep line = (.ok none, s) ∧ s.runLine line = (.ok (.proceed s.lastCode), s) := by
  refine ⟨folds_loopLines lines hopen hwell, fun s ran after h => h.lastCode, ?_, ?_⟩
  · rintro depth line s outcome after (hexecute | hreporting)
    · exact lastCode_execute hexecute
    · exact lastCode_reporting hreporting
  · intro line s hspaces hfits
    have hblank : line.allBlank = true := List.all_eq_true.2 fun c hmem => (hspaces c hmem).1
    exact ⟨if_pos hblank, runLine_of_spaces (fun c hmem => (hspaces c hmem).2) hfits⟩

/-- A blank line, two that run, and one that is not asked for. -/
def fourLines : List Text := [" ", "true | false", "exit 3", "true"]

theorem read_loop_folds_fourLines :
    let shell := Session.start {} Builtin.commands (none, none) []
    Folds fourLines (shell.log .loopStarted) (shell.runLines (fourLines.map some)) ∧
      (shell.runLines (fourLines.map some)).1.1 = .ok 3 ∧
      (shell.runLines (fourLines.map some)).2 = [some ("true" : Text)] := by
  intro shell
  have hsteady : shell.Steady := Builtin.steady_start {} []
  have hlogged := hsteady.of_keeps (.log .loopStarted shell)
  obtain ⟨hfolds, -⟩ :=
    read_loop_folds hsteady.buffers_open (hlogged.endsWell_loopLaunches fourLines)
  exact ⟨hfolds, by decide +kernel, by decide +kernel⟩

end Session

end PipedShell
