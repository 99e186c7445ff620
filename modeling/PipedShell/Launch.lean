import PipedShell.Builtin
import PipedShell.Command.Completion
import PipedShell.Launch.Argument
import PipedShell.Session.Loop

/-!
# Running the program

Started with arguments, the program runs one line, or else reads lines from its standard input
until there are no more.  Settings come from environment variables; arguments count more.  At a
terminal, completion is put into service first if there is a line editor.

* `Surroundings` is all that a run depends on, `Report` all that comes out of it.
* `run` is the run.
-/

namespace PipedShell.Launch

/-- What a run of the program depends on. -/
structure Surroundings where
  arguments : List Text
  /-- The environment variables. -/
  environment : Text → Option Text
  /-- The text of the standard input. -/
  stdin : Text
  /-- The standard input is a terminal. -/
  terminal : Bool
  /-- There is a line editor. -/
  editor : Bool

/-- How a run of the program ends. -/
inductive Ending where
  /-- With the exit code of what was run. -/
  | finished (code : Int)
  /-- Before it starts, because of its arguments, with this exit code. -/
  | halted (code : Nat)
  /-- Before it starts, because of its settings. -/
  | misconfigured (errors : List FieldError)
  /-- With a fault of a command. -/
  | broken (fault : Fault)
  deriving DecidableEq, Repr

namespace Ending

/-- The exit code that the system is told. -/
def systemCode : Ending → UInt32
  | finished code => (code.emod 256).toNat.toUInt32
  | halted code => code.toUInt32
  | misconfigured _ | broken _ => 1

/-- A setting that cannot be read, on a line of its own. -/
def settingLine (error : FieldError) : Text :=
  Text.concat (error.place.map fun
    | .name name => name
    | .position n => Text.ofInt n) ++ ": " ++ error.fault.message

/-- What the user is told about an end that no exit code explains. -/
def complaint : Ending → Text
  | misconfigured errors => Text.unlines (errors.map settingLine)
  | broken fault => fault.message ++ "\n"
  | finished _ | halted _ => []

end Ending

/-- What comes out of a run of the program. -/
structure Report where
  ending : Ending
  stdout : Text := []
  stderr : Text := []
  /-- What was asked of the line editor. -/
  editorCalls : List EditorCall := []
  deriving DecidableEq, Repr

/-- The run of a program that does not start because of its arguments. -/
def halt : Halt → Report
  | .help => { ending := .halted 0, stdout := helpText }
  | .fault cause =>
    { ending := .halted 2, stderr := usage ++ programName ++ ": error: " ++ cause.message ++ "\n" }

/-- The key that asks for completion. -/
def completionKey : Text := "tab"

/-- Runs the line that the options ask for, or else the lines of the standard input. -/
def work (options : Options) (session : Session) : Attempt Session Int :=
  match options.command with
  | some line =>
    let (result, after) := session.runLine line
    (result.map Outcome.code, after)
  | none => session.runConsole

/-- Runs a session that was set up; the shell is closed at the end. -/
def serve (options : Options) (surroundings : Surroundings) (session : Session) : Report :=
  let prompting := options.command.isNone && surroundings.terminal
  let ready :=
    if prompting && !surroundings.editor then session.log .completionUnavailable else session
  let (result, after) := work options ready
  { ending := match result with
      | .ok code => .finished code
      | .error fault => .broken fault
    stdout := after.close.stdout
    stderr := after.close.errorLog options.verbose
    editorCalls :=
      if prompting && surroundings.editor then installCalls completionKey else [] }

/-- Runs the program. -/
def run (surroundings : Surroundings) : Report :=
  match Options.ofArguments surroundings.arguments with
  | .error reason => halt reason
  | .ok options =>
    match Config.ofEnvironment fun name => (surroundings.environment name).map .str with
    | .error errors => { ending := .misconfigured errors }
    | .ok config =>
      serve options surroundings
        (.start (options.override config) Builtin.commands (none, none) surroundings.stdin)

end PipedShell.Launch
