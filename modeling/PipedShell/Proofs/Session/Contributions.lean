import Mathlib.Data.Int.Bitwise
import PipedShell.Proofs.Session.Settling

/-!
# What the stages of a range contribute

A range runs its stages one after another, and its commands can change nearly everything on the way:
what is registered, where the ends of the pipe lead, what the streams hold.  So what a stage comes
to depends on the session in which it starts, and this is the session that the stage before left,
with the pipe moved on.

* `Joins` — an integer is the disjunction of some codes in two's complement, bit by bit.
* `Contribution` and `Launch.ComesTo` — what a stage comes to, by what is registered under its name
  when it starts and by how the program of that command ends.
* `Turn` — a stage that starts, what it comes to, and the session afterwards; `Follows` says of
  turns that they are stages from left to right, each starting where the one before ended.
* `StagesEnd` — how stages end that took these turns.
* `unfolds_runStages` — stages unfold into turns, by induction on them.
* **`runRange_unfolds`** — so does a range whose commands close nothing.
-/

namespace PipedShell

/-! ## Codes joined -/

lemma odd_withoutBits_iff (a b : Nat) :
    withoutBits a b % 2 = 1 ↔ a % 2 = 1 ∧ ¬ b % 2 = 1 := by
  have hle : a &&& b ≤ a := Nat.and_le_left
  have hboth : (a &&& b) % 2 = 1 ↔ a % 2 = 1 ∧ b % 2 = 1 := Nat.and_mod_two_eq_one
  rw [withoutBits]
  omega

lemma withoutBits_div_two (a b : Nat) : withoutBits a b / 2 = withoutBits (a / 2) (b / 2) := by
  have hle : a &&& b ≤ a := Nat.and_le_left
  have hboth : (a &&& b) % 2 = 1 ↔ a % 2 = 1 ∧ b % 2 = 1 := Nat.and_mod_two_eq_one
  rw [withoutBits, withoutBits, ← Nat.and_div_two]
  omega

/-- Bits are taken away one by one: no place borrows from the next one. -/
lemma testBit_withoutBits (a b i : Nat) :
    (withoutBits a b).testBit i = (a.testBit i && !b.testBit i) := by
  induction i generalizing a b with
  | zero =>
      simp only [Nat.testBit_zero, odd_withoutBits_iff, Bool.decide_and, decide_not]
  | succ i ih =>
      rw [Nat.testBit_succ, Nat.testBit_succ, Nat.testBit_succ, withoutBits_div_two, ih]

/-- A bit of a disjunction is set where it is in one of the two, in two's complement. -/
lemma testBit_bitOr (a b : Int) (i : Nat) :
    (bitOr a b).testBit i = (a.testBit i || b.testBit i) := by
  cases a <;> cases b <;> simp [bitOr, Int.testBit, testBit_withoutBits]
  · rw [Bool.or_comm]

/-- An integer has exactly the bits of some codes, so it is zero exactly if all of them are. -/
structure Joins (codes : List Int) (joined : Int) : Prop where
  bits : ∀ i, joined.testBit i = codes.any fun code => code.testBit i
  eq_zero_iff : joined = 0 ↔ ∀ code ∈ codes, code = 0

lemma Joins.nil : Joins [] 0 where
  bits i := by simp [Int.testBit]
  eq_zero_iff := by simp

lemma Joins.concat {codes : List Int} {joined : Int} (h : Joins codes joined) (code : Int) :
    Joins (codes ++ [code]) (bitOr joined code) where
  bits i := by
    rw [testBit_bitOr, h.bits, List.any_append, List.any_cons, List.any_nil, Bool.or_false]
  eq_zero_iff := by simp [bitOr_eq_zero_iff, h.eq_zero_iff, or_imp, forall_and]

namespace Session

/-! ## One stage -/

/-- What a stage of a range comes to. -/
inductive Contribution where
  /-- A code, which is joined to the codes of the other stages. -/
  | code (code : Int)
  /-- Its command asks to leave the shell. -/
  | leaves (code : Int)
  /-- Its command fails, and the range with it. -/
  | escapes (fault : Fault)
  deriving DecidableEq

/-- The session with one more line on the error stream. -/
def withErrorLine (line : Text) (session : Session) : Session :=
  { session with errors := session.errors ++ [.text (line ++ "\n")] }

/-- The buffers and the error stream are open. -/
structure Unclosed (session : Session) : Prop where
  buffers_open : session.pipeline.BuffersOpen
  attached : session.stderrAttached = true

/-- The name of a launched stage is registered when it starts, and the program that runs on the
arguments of the stage ends like this. -/
def Launch.Plays (run : LineRunner) (launch : Launch) (result : Except Fault Value)
    (after : Session) : Prop :=
  ∃ program, launch.session.programOf? launch.stage = some program ∧
    (launch.session.log (.dispatching launch.stage)).play run program = (result, after)

/-- What a launched stage comes to, and the session in which that leaves the shell. -/
inductive Launch.ComesTo (run : LineRunner) (launch : Launch) : Contribution → Session → Prop
  /-- Nothing is registered under its name when it starts. -/
  | notFound (unregistered : launch.session.commands.find? launch.stage.name = none) :
      ComesTo run launch (.code 127)
        (launch.session.withErrorLine (launch.stage.name ++ ": command not found"))
  | nothing {after : Session} (plays : launch.Plays run (.ok .none) after) :
      ComesTo run launch (.code 0) after
  | integer {n : Int} {after : Session} (plays : launch.Plays run (.ok (.integer n)) after) :
      ComesTo run launch (.code n) after
  /-- It returns something else that can be read as an integer. -/
  | converted {value : Value} {code : Int} {after : Session}
      (plays : launch.Plays run (.ok value) after) (reads : value.exitCode = .ok code) :
      ComesTo run launch (.code code) after
  /-- It returns something that cannot be read as an integer. -/
  | unconverted {value : Value} {cause : Defect} {after : Session}
      (plays : launch.Plays run (.ok value) after) (fails : value.exitCode = .error cause) :
      ComesTo run launch (.escapes (.defect cause)) after
  /-- It writes where nothing takes the text, and does nothing about that. -/
  | closedPipe {detail : Text} {after : Session}
      (plays : launch.Plays run (.error (.line (.closedPipe detail))) after) :
      ComesTo run launch (.code 1)
        (after.withErrorLine (launch.stage.name ++ ": " ++ detail))
  | leaves {code : Int} {after : Session} (plays : launch.Plays run (.error (.exit code)) after) :
      ComesTo run launch (.leaves code) (after.log (.exitRequested launch.stage.name code))
  /-- It fails in any other way. -/
  | escapes {fault : Fault} {after : Session} (plays : launch.Plays run (.error fault) after)
      (not_closed : ∀ detail, fault ≠ .line (.closedPipe detail))
      (not_leaving : ∀ code, fault ≠ .exit code) : ComesTo run launch (.escapes fault) after
  /-- Its command has no program to run. -/
  | noProgram {command : Command}
      (registered : launch.session.commands.find? launch.stage.name = some command)
      (without : command.body = none) :
      ComesTo run launch (.escapes (.defect .noProgram))
        (launch.session.log (.dispatching launch.stage))

/-- A stage that starts, what it comes to, and the session in which that leaves the shell. -/
structure Turn extends Launch where
  contribution : Contribution
  after : Session

variable {run : LineRunner} {session : Session}

/-- The turn of a launched stage, read off the attempt to run its command. -/
def Launch.turn (run : LineRunner) (launch : Launch) : Turn where
  toLaunch := launch
  contribution :=
    match (launch.session.runCommand run launch.stage).1 with
    | .ok code => .code code
    | .error (.exit code) => .leaves code
    | .error fault => .escapes fault
  after :=
    match launch.session.runCommand run launch.stage with
    | (.error (.exit code), after) => after.log (.exitRequested launch.stage.name code)
    | (_, after) => after

lemma writeError_of_attached (h : session.stderrAttached = true) (line : Text) :
    session.writeError (line ++ "\n") = session.withErrorLine line := by
  simp [writeError, withErrorLine, h]

@[simp] lemma stderrAttached_writeError (text : Text) (session : Session) :
    (session.writeError text).stderrAttached = session.stderrAttached := by
  by_cases h : session.stderrAttached <;> simp [writeError, h]

/-- A program that ends makes its stage come to something. -/
lemma comesTo_of_plays {launch : Launch} {result : Except Fault Value} {after : Session}
    (hplays : launch.Plays run result after)
    (h : (launch.session.runCommand run launch.stage).2.stderrAttached = true) :
    launch.ComesTo run (launch.turn run).contribution (launch.turn run).after := by
  have ⟨program, hprogram, hplay⟩ := hplays
  cases result with
  | ok value =>
      have hrun := runCommand_of_value hprogram hplay
      cases hcode : value.exitCode with
      | ok code =>
          simp only [Launch.turn, hrun, hcode]
          exact .converted hplays hcode
      | error cause =>
          simp only [Launch.turn, hrun, hcode]
          exact .unconverted hplays hcode
  | error fault =>
      have hrun := runCommand_of_fails hprogram hplay
      cases fault with
      | exit code =>
          simp only [Launch.turn, hrun]
          exact .leaves hplays
      | defect cause =>
          simp only [Launch.turn, hrun]
          exact .escapes hplays (by simp) (by simp)
      | line cause =>
          cases cause with
          | closedPipe detail =>
              simp only at hrun
              simp only [hrun, stderrAttached_writeError] at h
              simp only [Launch.turn, hrun, writeError_of_attached h]
              exact .closedPipe hplays
          | _ =>
              simp only [Launch.turn, hrun]
              exact .escapes hplays (by simp) (by simp)

/-- **One stage**: by what is registered under its name, and by how that program ends. -/
lemma comesTo_turn (launch : Launch)
    (h : (launch.session.runCommand run launch.stage).2.stderrAttached = true) :
    launch.ComesTo run (launch.turn run).contribution (launch.turn run).after := by
  cases hfind : launch.session.commands.find? launch.stage.name with
  | none =>
      have hrun : launch.session.runCommand run launch.stage
          = (.ok 127, launch.session.writeError
              (launch.stage.name ++ ": command not found" ++ "\n")) := by
        rw [runCommand, hfind]
        rfl
      rw [hrun, stderrAttached_writeError] at h
      rw [writeError_of_attached h] at hrun
      simp only [Launch.turn, hrun]
      exact .notFound hfind
  | some command =>
      cases hbody : command.body with
      | none =>
          have hrun : launch.session.runCommand run launch.stage
              = (.error (.defect .noProgram),
                launch.session.log (.dispatching launch.stage)) := by
            simp [runCommand, hfind, invoke, hbody]
          simp only [Launch.turn, hrun]
          exact .noProgram hfind hbody
      | some body =>
          have hprogram : launch.session.programOf? launch.stage
              = some (body launch.stage.args) := by
            simp [programOf?, hfind, hbody]
          exact comesTo_of_plays ⟨_, hprogram, rfl⟩ h

/-! ## The stages of a range -/

/-- The turns are stages from left to right: each starts in the session that the one before it
left, with the pipe moved on. -/
inductive Follows : Session → List Stage → List Turn → Prop
  | rest (session : Session) (stages : List Stage) : Follows session stages []
  | next {session : Session} {stages : List Stage} {turn : Turn} {turns : List Turn}
      (moves : session.onPipeline (Pipeline.advance stages.isEmpty) = (.ok (), turn.session))
      (later : Follows turn.after stages turns) :
      Follows session (turn.stage :: stages) (turn :: turns)

/-- How stages end of which these took their turn, behind others that came to the codes
`earlier`. -/
inductive StagesEnd (earlier : List Int) (stages : List Stage) :
    List Turn → Except Fault Outcome → Prop
  /-- All of them came to codes, which are joined. -/
  | joined {turns : List Turn} {codes : List Int} {result : Int}
      (all : turns.map (·.stage) = stages)
      (come_to : turns.map (·.contribution) = codes.map .code)
      (joins : Joins (earlier ++ codes) result) :
      StagesEnd earlier stages turns (.ok (.proceed result))
  /-- One asked to leave the shell, the first that did not come to a code; none starts behind it. -/
  | left {before : List Turn} {turn : Turn} {codes : List Int} {code : Int}
      (come_to : before.map (·.contribution) = codes.map .code)
      (leaves : turn.contribution = .leaves code) :
      StagesEnd earlier stages (before ++ [turn]) (.ok (.terminate code))
  /-- One failed, the first that did not come to a code; none starts behind it. -/
  | escaped {before : List Turn} {turn : Turn} {codes : List Int} {fault : Fault}
      (come_to : before.map (·.contribution) = codes.map .code)
      (escapes : turn.contribution = .escapes fault) :
      StagesEnd earlier stages (before ++ [turn]) (.error fault)

/-- The session that the last turn leaves, or the one at the start if there is none. -/
def lastSession (session : Session) (turns : List Turn) : Session :=
  (turns.getLast?.map Turn.after).getD session

/-- What running stages comes to is what comes of the turns. -/
structure Unfolds (run : LineRunner) (earlier : List Int) (stages : List Stage) (session : Session)
    (turns : List Turn) (attempt : Attempt Session Outcome) : Prop where
  launched : turns.map Turn.toLaunch = session.stageLaunches run stages
  in_order : Follows session stages turns
  come_to : ∀ turn ∈ turns, turn.ComesTo run turn.contribution turn.after
  ends : StagesEnd earlier stages turns attempt.1
  last : attempt.2 = lastSession session turns

/-- A stage that comes to a code is followed by the others. -/
lemma StagesEnd.cons {earlier : List Int} {stages : List Stage} {turn : Turn} {turns : List Turn}
    {code : Int} {result : Except Fault Outcome} (hcode : turn.contribution = .code code)
    (h : StagesEnd (earlier ++ [code]) stages turns result) :
    StagesEnd earlier (turn.stage :: stages) (turn :: turns) result := by
  have hcons : ∀ {before : List Turn} {codes : List Int},
      before.map (·.contribution) = codes.map Contribution.code →
        (turn :: before).map (·.contribution) = (code :: codes).map Contribution.code := by
    intro before codes hbefore
    rw [List.map_cons, List.map_cons, hcode, hbefore]
  cases h with
  | joined hall hcodes hjoins =>
      refine .joined (by rw [List.map_cons, hall]) (hcons hcodes) ?_
      rwa [List.append_assoc] at hjoins
  | left hcodes hleaves =>
      rw [← List.cons_append]
      exact .left (hcons hcodes) hleaves
  | escaped hcodes hescapes =>
      rw [← List.cons_append]
      exact .escaped (hcons hcodes) hescapes

lemma lastSession_cons (session : Session) (turn : Turn) (turns : List Turn) :
    lastSession session (turn :: turns) = lastSession turn.after turns := by
  rw [lastSession, lastSession, List.getLast?_cons]
  cases turns.getLast? <;> rfl

section Turns

variable {stages : List Stage} {turn : Turn} {attempt : Attempt Session Outcome}
  {earlier : List Int}

/-- A stage behind which none starts. -/
lemma Unfolds.last_turn {result : Except Fault Outcome}
    (hadvance : session.onPipeline (Pipeline.advance stages.isEmpty) = (.ok (), turn.session))
    (hlaunches : session.stageLaunches run (turn.stage :: stages) = [turn.toLaunch])
    (hcomes : turn.ComesTo run turn.contribution turn.after)
    (hends : StagesEnd earlier (turn.stage :: stages) [turn] result) :
    Unfolds run earlier (turn.stage :: stages) session [turn] (result, turn.after) where
  launched := hlaunches.symm
  in_order := .next hadvance (.rest _ _)
  come_to := by simpa using hcomes
  ends := hends
  last := rfl

/-- A stage that the others follow. -/
lemma Unfolds.cons {code : Int} {turns : List Turn}
    (h : Unfolds run (earlier ++ [code]) stages turn.after turns attempt)
    (hadvance : session.onPipeline (Pipeline.advance stages.isEmpty) = (.ok (), turn.session))
    (hlaunches : session.stageLaunches run (turn.stage :: stages)
      = turn.toLaunch :: turn.after.stageLaunches run stages)
    (hcomes : turn.ComesTo run turn.contribution turn.after)
    (hcode : turn.contribution = .code code) :
    Unfolds run earlier (turn.stage :: stages) session (turn :: turns) attempt where
  launched := by rw [List.map_cons, h.launched, hlaunches]
  in_order := .next hadvance h.in_order
  come_to := List.forall_mem_cons.2 ⟨hcomes, h.come_to⟩
  ends := h.ends.cons hcode
  last := by rw [lastSession_cons, h.last]

end Turns

section Step

variable {stage : Stage} {stages : List Stage} {moved : Session}

/-- A stage that can start takes its turn, and the others follow if it comes to a code. -/
lemma runStages_turn (code : Int)
    (hadvance : session.onPipeline (Pipeline.advance stages.isEmpty) = (.ok (), moved)) :
    session.runStages run code (stage :: stages) =
      match (Launch.turn run ⟨stage, moved⟩).contribution with
      | .code next =>
        runStages run (bitOr code next) stages (Launch.turn run ⟨stage, moved⟩).after
      | .leaves asked => (.ok (.terminate asked), (Launch.turn run ⟨stage, moved⟩).after)
      | .escapes fault => (.error fault, (Launch.turn run ⟨stage, moved⟩).after) := by
  simp only [runStages, hadvance, Launch.turn]
  rcases moved.runCommand run stage with ⟨fault | next, after⟩
  · cases fault <;> rfl
  · rfl

lemma stageLaunches_turn
    (hadvance : session.onPipeline (Pipeline.advance stages.isEmpty) = (.ok (), moved)) :
    session.stageLaunches run (stage :: stages) = ⟨stage, moved⟩ ::
      match (Launch.turn run ⟨stage, moved⟩).contribution with
      | .code _ => stageLaunches run stages (Launch.turn run ⟨stage, moved⟩).after
      | _ => [] := by
  simp only [stageLaunches, hadvance, Launch.turn]
  rcases moved.runCommand run stage with ⟨fault | next, after⟩
  · cases fault <;> rfl
  · rfl

lemma Unclosed.after_turn (h : (moved.runCommand run stage).2.Unclosed) :
    (Launch.turn run ⟨stage, moved⟩).after.Unclosed := by
  rw [Launch.turn]
  generalize moved.runCommand run stage = ran at h ⊢
  rcases ran with ⟨fault | next, after⟩
  · cases fault <;> exact ⟨h.buffers_open, h.attached⟩
  · exact h

end Step

/-- **Stages unfold into turns**, by induction on them.  What carries it is that `code` joins the
codes of the stages before. -/
lemma unfolds_runStages {earlier : List Int} {code : Int} (hjoins : Joins earlier code)
    (stages : List Stage) (hopen : session.pipeline.BuffersOpen)
    (hkept : ∀ launch ∈ session.stageLaunches run stages,
      (launch.session.runCommand run launch.stage).2.Unclosed) :
    ∃ turns, Unfolds run earlier stages session turns (session.runStages run code stages) := by
  induction stages generalizing earlier code session with
  | nil =>
      have hends : StagesEnd earlier [] [] (.ok (.proceed code)) :=
        @StagesEnd.joined _ _ [] [] code rfl rfl (by rwa [List.append_nil])
      exact ⟨[], rfl, .rest session [], by simp, hends, rfl⟩
  | cons stage stages ih =>
      obtain ⟨moved, hadvance, -⟩ := advance_of_open hopen stages.isEmpty
      have hstages := @runStages_turn run session stage stages moved code hadvance
      have hlaunches := @stageLaunches_turn run session stage stages moved hadvance
      rw [hlaunches, List.forall_mem_cons] at hkept
      obtain ⟨hfirst, hlater⟩ := hkept
      have hcomes := comesTo_turn ⟨stage, moved⟩ hfirst.attached
      have hafter := hfirst.after_turn
      rw [hstages]
      cases hcontribution : (Launch.turn run ⟨stage, moved⟩).contribution with
      | code next =>
          rw [hcontribution] at hlaunches hlater
          obtain ⟨turns, hturns⟩ := ih (hjoins.concat next) hafter.buffers_open hlater
          exact ⟨_, hturns.cons hadvance hlaunches hcomes hcontribution⟩
      | leaves asked =>
          rw [hcontribution] at hlaunches
          exact ⟨_, .last_turn hadvance hlaunches hcomes
            (@StagesEnd.left _ _ [] _ [] _ rfl hcontribution)⟩
      | escapes fault =>
          rw [hcontribution] at hlaunches
          exact ⟨_, .last_turn hadvance hlaunches hcomes
            (@StagesEnd.escaped _ _ [] _ [] _ rfl hcontribution)⟩

/-! ## Ranges -/

/-- **A range unfolds into turns of its stages.**  They start from left to right, each with what is
registered under its name at that moment.  If all come to codes, these are joined; otherwise the
first stage that does not is the last one that starts, and the range ends as it does. -/
theorem runRange_unfolds (run : LineRunner) (range : PipeRange) (hopen : session.Unclosed)
    (hkept : ∀ launch ∈ session.launches run range,
      (launch.session.runCommand run launch.stage).2.Unclosed) :
    ∃ turns, turns.map Turn.toLaunch = session.launches run range ∧
      Follows session.started range.stages turns ∧
      (∀ turn ∈ turns, turn.ComesTo run turn.contribution turn.after) ∧
      StagesEnd [] range.stages turns (session.runRange run range).1 ∧
      (session.runRange run range).2 =
        { lastSession session.started turns with
          pipeline := (lastSession session.started turns).pipeline.finish } := by
  have hstarted : session.started.pipeline.BuffersOpen := by
    intro slot
    cases slot with
    | first => exact hopen.buffers_open .first
    | second => exact hopen.buffers_open .second
  rw [launches_of_open range hopen.buffers_open] at hkept ⊢
  rw [runRange_of_open range hopen.buffers_open]
  obtain ⟨turns, hturns⟩ := unfolds_runStages Joins.nil range.stages hstarted hkept
  refine ⟨turns, hturns.launched, hturns.in_order, hturns.come_to, hturns.ends, ?_⟩
  rw [hturns.last]

instance : DecidablePred Unclosed := fun session =>
  decidable_of_iff (session.pipeline.first.closed = false ∧
      session.pipeline.second.closed = false ∧ session.stderrAttached = true)
    ⟨fun ⟨hfirst, hsecond, hattached⟩ => ⟨fun | .first => hfirst | .second => hsecond, hattached⟩,
      fun h => ⟨h.buffers_open .first, h.buffers_open .second, h.attached⟩⟩

/-- A session with a command that registers `b` anew and takes `gone` out, and one that writes to
the pipe when nothing takes the text. -/
def changing : Session where
  commands := .ofList [
    ⟨{ name := "swap", description := "" }, some fun _ =>
      .register "b" "" (fun _ => .result (-128)) (.need (.unregister "gone") fun _ => .done .none)⟩,
    ⟨{ name := "b", description := "" }, some fun _ => .result 0⟩,
    ⟨{ name := "gone", description := "" }, some fun _ => .result 0⟩,
    ⟨{ name := "shut", description := "" }, some fun _ =>
      .need .beginPipe fun _ => .write "lost" (.result 0)⟩]

/-- The later stages run what the first one left registered, and all of them start. -/
theorem runRange_unfolds_changing :
    let range : PipeRange :=
      ⟨none, [⟨"swap", []⟩, ⟨"b", []⟩, ⟨"gone", []⟩, ⟨"shut", []⟩, ⟨"b", []⟩]⟩
    (∃ turns, Follows changing.started range.stages turns ∧
        (∀ turn ∈ turns, turn.ComesTo Session.run turn.contribution turn.after) ∧
        StagesEnd [] range.stages turns (.ok (.proceed (-1)))) ∧
      (changing.runRange Session.run range).2.stderr
        = "gone: command not found\nshut: write to a closed pipe\n" := by
  intro range
  have hkept : ∀ launch ∈ changing.launches Session.run range,
      (launch.session.runCommand Session.run launch.stage).2.Unclosed := by decide +kernel
  have hresult : (changing.runRange Session.run range).1 = .ok (.proceed (-1)) := by
    decide +kernel
  obtain ⟨turns, -, hfollows, hcomes, hends, -⟩ :=
    runRange_unfolds Session.run range (by decide +kernel) hkept
  rw [hresult] at hends
  exact ⟨⟨turns, hfollows, hcomes, hends⟩, by decide +kernel⟩

end Session

end PipedShell
