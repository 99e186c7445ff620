import PipedShell.Proofs.Builtin.Numbers
import PipedShell.Proofs.Builtin.Tame
import PipedShell.Proofs.Session.Idle
import PipedShell.Proofs.Session.Visits

/-!
# Lines of built-in commands

A line of built-in commands, whatever it says, comes to an outcome: it is refused, or its stages
write what they have to say and come to exit codes, and only `exit` leaves the shell, if it has no
argument or its first one is a number.

* `Program.Stays` — a program that returns an exit code, if its requests are answered; every filter
  is one, and so is `help`.
* `Builtin.exitCode?` — the code with which a stage leaves the shell, by its name and arguments.
* `Builtin.numbers` — the numbers that a stage writes out of its arguments.
* `Builtin.asks_eq_exitCode` — a stage that starts leaves the shell with that code, or not at all.
* **`Builtin.runLine_outcome`** — any line has an outcome, leaves the shell exactly when a stage
  that starts asks to, and puts the session to rest.
-/

namespace PipedShell

/-! ## Programs that return -/

/-- Reading, writing, complaining and looking up. -/
def Request.isServed : Request → Bool
  | .write _ | .writeError _ | .read _ | .describe _ | .describeAll => true
  | _ => false

/-- A program that makes such requests only, and returns an exit code if they are answered. -/
inductive Program.Stays : Program → Prop
  | done {value : Value} {code : Int} (exits : value.exitCode = .ok code) : Stays (.done value)
  | ask {request : Request} {next : Except Fault request.Reply → Program}
      (served : request.isServed = true)
      (goes_on : ∀ (run : Session.LineRunner) (session : Session) (reply : request.Reply),
        session.Serves → (session.answer run request).1 = .ok reply → Stays (next (.ok reply))) :
      Stays (.ask request next)

lemma Program.IsFilter.stays {program : Program} (h : program.IsFilter) : program.Stays := by
  induction h with
  | done hexits => exact .done hexits
  | write _ ih => exact .ask rfl fun _ _ _ _ _ => ih
  | writeError _ ih => exact .ask rfl fun _ _ _ _ _ => ih
  | @read how next _ ih =>
      refine .ask rfl fun run session reply hserves hreply => ?_
      have hread : session.answer run (.read how) = _ := Session.read_of_serves hserves how
      rw [hread] at hreply
      cases hreply
      exact ih session.input

namespace Session

variable {run : LineRunner} {session : Session}

/-- Such requests are answered where something takes what is written, and that stays so. -/
lemma answer_of_isServed {request : Request} (h : request.isServed = true)
    (hserves : session.Serves) :
    ∃ reply after, session.answer run request = (.ok reply, after) ∧ after.Serves := by
  cases request with
  | write text =>
      exact ⟨(), session.emit text, write_of_serves hserves text,
        (Keeps.emit text session).serves (routing_emit text session) hserves⟩
  | writeError text =>
      exact ⟨(), session.writeError text, rfl, (Keeps.writeError text session).serves
        (congrArg Pipeline.routing (pipeline_writeError text session)) hserves⟩
  | read how =>
      exact ⟨_, _, read_of_serves hserves how,
        (Keeps.readTo _ session).serves (routing_readTo _ session) hserves⟩
  | describe name => exact ⟨_, session, rfl, hserves⟩
  | describeAll => exact ⟨_, session, rfl, hserves⟩
  | _ => cases h

lemma play_stays {program : Program} (h : program.Stays) (hserves : session.Serves) :
    ∃ value code after, session.play run program = (.ok value, after) ∧
      value.exitCode = .ok code := by
  induction h generalizing session with
  | @done value code hexits => exact ⟨value, code, session, rfl, hexits⟩
  | @ask request next hserved _ ih =>
      obtain ⟨reply, middle, hanswer, hmiddle⟩ := @answer_of_isServed run session _ hserved hserves
      obtain ⟨value, code, after, hplay, hexits⟩ :=
        ih run session reply hserves (by rw [hanswer]) hmiddle
      exact ⟨value, code, after, by rw [play, hanswer, hplay], hexits⟩

end Session

namespace Builtin

open Session

/-! ## Stages that leave -/

/-- The code with which the command of a stage leaves the shell, none if it does not. -/
def exitCode? (stage : Stage) : Option Int :=
  if stage.name = ("exit" : Text) then
    match stage.args with
    | [] => some 0
    | arg :: _ => arg.readInt.toOption
  else none

lemma stays_help (args : List Text) : (help args).Stays := by
  cases args with
  | nil => exact .ask rfl fun _ _ specs _ _ => (Program.IsFilter.before_write _ (.result 0)).stays
  | cons name args =>
      refine .ask rfl fun _ _ spec _ _ => Program.IsFilter.stays ?_
      cases spec with
      | none => exact .before_writeError _ (.result 1)
      | some spec => exact .before_write _ (.before_write _ (.result 0))

/-- Every command but `exit` returns an exit code. -/
lemma stays_of_find? {name : Text} {found : Command} (hfind : commands.find? name = some found)
    (hexit : name ≠ "exit") : ∃ body, found.body = some body ∧ ∀ args, (body args).Stays := by
  by_cases hhelp : name = "help"
  · have hfound : commands.find? "help"
        = some (command "help" "list commands or show help for one" help) := rfl
    rw [hhelp, hfound] at hfind
    cases hfind
    exact ⟨help, rfl, stays_help⟩
  · have hmem := List.mem_of_find?_eq_some hfind
    have hname : found.spec.name = name := by simpa using List.find?_some hfind
    rw [← hname] at hexit hhelp
    obtain ⟨body, hbody, -⟩ := areTame_commands found hmem
    exact ⟨body, hbody, fun args =>
      (isFilter_of_mem_all (Registry.mem_of_mem_ofList hmem) hexit hhelp hbody args).stays⟩

variable {run : LineRunner} {session : Session}

lemma runCommand_stays {stage : Stage} {program : Program}
    (hprogram : session.programOf? stage = some program) (h : program.Stays)
    (hserves : session.Serves) :
    ∃ code after, session.runCommand run stage = (.ok code, after) := by
  have hlogged : (session.log (.dispatching stage)).Serves :=
    ⟨hserves.buffers_open, hserves.taken⟩
  obtain ⟨value, code, after, hplay, hcode⟩ := play_stays h hlogged
  exact ⟨code, after, runCommand_of_play hprogram hplay hcode⟩

/-- `exit` complains of an argument that is no number, and otherwise asks to leave. -/
lemma asks_exit {launch : Launch} (hcommands : launch.session.commands = commands)
    (hexit : launch.stage.name = ("exit" : Text)) :
    launch.asks? run = exitCode? launch.stage := by
  have hfind : launch.session.commands.find? launch.stage.name
      = some (command "exit" "exit the shell with an optional code" exit) := by
    rw [hcommands, hexit]
    rfl
  rw [exitCode?, if_pos hexit]
  simp only [Launch.asks?, runCommand, hfind, invoke, command]
  cases hargs : launch.stage.args with
  | nil => rfl
  | cons arg args =>
      simp only [exit]
      cases arg.readInt with
      | ok code => rfl
      | error fault => rfl

/-- **A stage leaves the shell with the code that its name and arguments say**, or not at all. -/
lemma asks_eq_exitCode {launch : Launch} (hcommands : launch.session.commands = commands)
    (hserves : launch.session.Serves) : launch.asks? run = exitCode? launch.stage := by
  by_cases hexit : launch.stage.name = ("exit" : Text)
  · exact asks_exit hcommands hexit
  · obtain ⟨code, after, hcommand⟩ : ∃ code after,
        launch.session.runCommand run launch.stage = (.ok code, after) := by
      cases hfind : launch.session.commands.find? launch.stage.name with
      | none =>
          let report := (LineFault.unknownCommand launch.stage.name).message ++ "\n"
          exact ⟨notFoundCode, launch.session.writeError report, by
            simp only [runCommand, hfind, report]⟩
      | some found =>
          obtain ⟨body, hbody, hstays⟩ := stays_of_find? (hcommands ▸ hfind) hexit
          have hprogram : launch.session.programOf? launch.stage
              = some (body launch.stage.args) := by
            simp [programOf?, hfind, hbody]
          exact runCommand_stays hprogram (hstays _) hserves
    rw [exitCode?, if_neg hexit, Launch.asks?, hcommand]

/-! ## Numbers that stages write -/

/-- The numbers that the command of a stage writes out of its arguments: those of a progression, and
the code that the log says it asks to leave with. -/
def numbers (stage : Stage) : List Int :=
  if stage.name = ("seq" : Text) then
    match Progression.ofArgs stage.args with
    | .ok p => p.values
    | .error _ => []
  else (exitCode? stage).toList

lemma isWritable_of_exitCode {stage : Stage} {code : Int} (h : exitCode? stage = some code) :
    IsWritable code := by
  rw [exitCode?] at h
  split_ifs at h
  split at h
  · cases h
    exact isWritable_zero
  · next arg args _ =>
      cases hread : arg.readInt with
      | error fault => simp [hread, Except.toOption] at h
      | ok n =>
          obtain rfl : n = code := by simpa [hread, Except.toOption] using h
          exact isWritable_of_readInt hread

lemma isWritable_of_mem_numbers {stage : Stage} {n : Int} (h : n ∈ numbers stage) :
    IsWritable n := by
  rw [numbers] at h
  split_ifs at h
  · split at h
    · next p hp => exact Progression.isWritable_of_mem_values hp h
    · simp at h
  · exact isWritable_of_exitCode (Option.mem_toList.1 h)

/-! ## Lines -/

lemma findSome?_asks {launches : List Launch}
    (h : ∀ launch ∈ launches, launch.session.commands = commands ∧ launch.session.Serves) :
    launches.findSome? (Launch.asks? run) = (launches.map (·.stage)).findSome? exitCode? := by
  induction launches with
  | nil => rfl
  | cons launch launches ih =>
      obtain ⟨⟨hcommands, hserves⟩, hlater⟩ := List.forall_mem_cons.1 h
      rw [List.findSome?_cons, asks_eq_exitCode hcommands hserves, ih hlater]
      rfl

/-- **Any line of built-in commands has an outcome**, whatever the settings are and whatever there
is to be read.  Afterwards the pipe is closed, the commands are the same and the last code is that
of the outcome.  The shell is left exactly if a stage that started was `exit` without an argument or
with a number as its first one, and with the code of the first such stage.  No stage got a number
out of its arguments that is too long to be written. -/
theorem runLine_outcome (line : Text) (hcommands : session.commands = commands)
    (hopen : session.pipeline.BuffersOpen) (hclosed : session.pipeline.routing = .idle)
    (hattached : session.stdoutAttached = true) :
    ∃ outcome after, session.runLine line = (.ok outcome, after) ∧
      after.pipeline.routing = .idle ∧ after.commands = session.commands ∧
      after.lastCode = outcome.code ∧
      (∀ code, outcome = .terminate code ↔
        (session.startedStages line).findSome? exitCode? = some code) ∧
      ∀ stage ∈ session.startedStages line, ∀ n ∈ numbers stage, IsWritable n := by
  have hsteady : session.Steady := ⟨hcommands ▸ areTame_commands, hopen, hattached⟩
  obtain ⟨outcome, stdout, stderr, hanswers⟩ := exists_answers_of_steady hsteady line
  have hasked : asked? (.ok outcome) = (session.startedStages line).findSome? exitCode? := by
    rw [startedStages, ← findSome?_asks, ← hanswers.ends]
    · exact asked_reporting line session
    · intro launch hmem
      obtain ⟨hkeeps, hserves⟩ := keeps_of_mem_lineLaunches line hsteady launch hmem
      exact ⟨hkeeps.commands_eq.trans hcommands, hserves⟩
  refine ⟨outcome, (session.runLine line).2, Prod.ext hanswers.ends rfl,
    reporting_keeps_closed maxDepth line hclosed, hanswers.keeps.commands_eq, hanswers.code,
    fun code => ?_, fun stage _ n hn => isWritable_of_mem_numbers hn⟩
  rw [← hasked]
  cases outcome <;> simp [asked?]

/-- The second `exit` of a range is the first one that is given a number. -/
theorem runLine_outcome_exit :
    let session := Session.start {} commands (none, none) ""
    ∃ after, session.runLine "echo a | exit x | exit 7 | cat || echo b"
        = (.ok (.terminate 7), after) ∧
      after.pipeline.routing = .idle ∧ after.lastCode = 7 := by
  intro session
  obtain ⟨outcome, after, hline, hclosed, -, hcode, hleaves, -⟩ :=
    @runLine_outcome session "echo a | exit x | exit 7 | cat || echo b" rfl
      (by intro slot; cases slot <;> rfl) rfl rfl
  obtain rfl := (hleaves 7).2 (by decide +kernel)
  exact ⟨after, hline, hclosed, hcode⟩

end Builtin

end PipedShell
