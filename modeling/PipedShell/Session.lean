import PipedShell.Command.Registry
import PipedShell.Config
import PipedShell.Pipe.Pipeline
import PipedShell.Program
import PipedShell.Session.Record

/-!
# Sessions

A session is one running shell: its settings, its commands, its pipeline and its streams.  Streams
in memory are part of the state, so what a session has written can be read off it.

* `Session` is the state; `Session.write`, `Session.writeError` and `Session.read` are what commands
  do with streams, wherever the pipe leads them at the moment.
* `ErrorEntry` is an entry of the error stream, which carries log records between the texts.
* `Session.answer` is the answer to a request, `Session.play` runs a program and `Session.invoke` a
  registered command.  Running a line from within a program is left to the caller of `play`.
-/

namespace PipedShell

/-- What comes to the error stream. -/
inductive ErrorEntry where
  | text (text : Text)
  | record (record : Record)
  deriving DecidableEq, Repr

/-- A registered command. -/
abbrev Command := Entry Body

/-- The commands of a session. -/
abbrev Commands := Registry Body

/-- A running shell. -/
structure Session where
  config : Config := {}
  prompt : Text := config.prompt
  commands : Commands
  pipeline : Pipeline := {}
  /-- The standard input. -/
  stdin : Source := .ofText []
  /-- What was written to the standard output. -/
  stdout : Text := []
  /-- There is a standard output. -/
  stdoutAttached : Bool := true
  /-- How often the standard output was flushed. -/
  flushes : Nat := 0
  /-- What came to the error stream. -/
  errors : List ErrorEntry := []
  /-- There is an error stream. -/
  stderrAttached : Bool := true
  /-- The exit code of the last line. -/
  lastCode : Int := 0
  /-- What programs wanted to be remembered. -/
  notes : List Note := []

namespace Session

/-- A new session with settings, commands, and buffers that are lent or not. -/
def start (config : Config) (commands : Commands) (loans : Option Text × Option Text)
    (stdin : Text) : Session :=
  { config, commands, pipeline := .ofLoans loans.1 loans.2, stdin := .ofText stdin }

/-- Logs a record. -/
def log (record : Record) (session : Session) : Session :=
  { session with errors := session.errors ++ [.record record] }

/-- The texts of the error stream, without log records. -/
def stderr (session : Session) : Text :=
  session.errors.flatMap fun
    | .text t => t
    | .record _ => []

/-- The error stream as a log shows it, with the records that it shows. -/
def errorLog (verbose : Bool) (session : Session) : Text :=
  session.errors.flatMap fun
    | .text t => t
    | .record r => if r.isShown verbose then r.line else []

/-- Acts on the pipeline. -/
def onPipeline {α : Type} (act : Pipeline → Attempt Pipeline α) (session : Session) :
    Attempt Session α :=
  let (result, pipeline) := act session.pipeline
  (result, { session with pipeline })

/-- Writes to wherever the output of the stage leads. -/
def write (text : Text) (session : Session) : Attempt Session Unit :=
  match session.pipeline.outputSlot? with
  | some slot =>
    let (result, after) := session.onPipeline (Pipeline.onBuffer slot (Buffer.write text))
    (result.map fun _ => (), after)
  | none =>
    if session.pipeline.opened && session.pipeline.routing.output == .closed then
      (.error (.line (.closedPipe LineFault.closedPipeDetail)), session)
    else if session.stdoutAttached then
      (.ok (), { session with stdout := session.stdout ++ text })
    else (.error (.line (.closedPipe LineFault.noOutputDetail)), session)

/-- Writes to the error stream, if there is one; the pipe has no part in it. -/
def writeError (text : Text) (session : Session) : Session :=
  if session.stderrAttached then { session with errors := session.errors ++ [.text text] }
  else session

/-- Reads from wherever the input of the stage comes from. -/
def read (how : Reading) (session : Session) : Attempt Session (Option Text) :=
  match session.pipeline.inputSlot? with
  | some slot => session.onPipeline (Pipeline.onBuffer slot (Buffer.read how))
  | none =>
    let (result, stdin) := session.stdin.read how
    (.ok result, { session with stdin })

/-- Reads all of the standard input, past any rest of a line held back. -/
def readStdin (session : Session) : Text × Session :=
  (session.stdin.unread, { session with stdin := { session.stdin with unread := [] } })

/-- Flushes the standard output, if there is one. -/
def flush (session : Session) : Session :=
  if session.stdoutAttached then { session with flushes := session.flushes + 1 } else session

/-- What the two buffers hold. -/
def bufferContents (session : Session) : Attempt Session (List Text) :=
  match session.pipeline.first.contents, session.pipeline.second.contents with
  | (.ok first, _), (.ok second, _) => (.ok [first, second], session)
  | (.error fault, _), _ => (.error fault, session)
  | _, (.error fault, _) => (.error fault, session)

/-- Registers a command. -/
def register (command : Command) (session : Session) : Session :=
  { session with commands := session.commands.insert command }

/-- Takes a command out of the registry. -/
def unregister (name : Text) (session : Session) : Session :=
  { session with commands := session.commands.erase name }

/-- Reads the standard input from a text from now on. -/
def setStdin (text : Text) (session : Session) : Session :=
  { session with stdin := .ofText text }

/-- Remembers something. -/
def remember (note : Note) (session : Session) : Session :=
  { session with notes := session.notes ++ [note] }

/-- Closes the buffers that belong to the shell. -/
def close (session : Session) : Session :=
  { session with pipeline := session.pipeline.closeBuffers }

/-- The same shell on streams that nothing was written to yet and with nothing remembered. -/
def withFreshOutput (session : Session) : Session :=
  { session with stdout := [], flushes := 0, errors := [], notes := [] }

/-- How a line that is run from within a program is run. -/
abbrev LineRunner := Text → Session → Attempt Session Outcome

/-- Reports a line that was refused or failed as a whole; the shell goes on then. -/
def reporting (run : LineRunner) : LineRunner := fun line session =>
  match run line session with
  | (.error (.line fault), after) =>
    let reported := (after.log (.rejected line fault)).writeError (fault.message ++ "\n")
    (.ok (.proceed 1), { reported with lastCode := 1 })
  | other => other

/-- The answer to a request, lines being run by `run`. -/
def answer (run : LineRunner) (session : Session) :
    (request : Request) → Attempt Session request.Reply
  | .write text => session.write text
  | .writeError text => (.ok (), session.writeError text)
  | .read how => session.read how
  | .readStdin => (.ok session.readStdin.1, session.readStdin.2)
  | .execute line => run line session
  | .runLine line => reporting run line session
  | .lastCode => (.ok session.lastCode, session)
  | .routing => (.ok session.pipeline.routing, session)
  | .bufferContents => session.bufferContents
  | .describe name => (.ok ((session.commands.find? name).map (·.spec)), session)
  | .describeAll => (.ok (session.commands.toList.map (·.spec)), session)
  | .unregister name => (.ok (), session.unregister name)
  | .setPrompt prompt => (.ok (), { session with prompt })
  | .setStdin text => (.ok (), session.setStdin text)
  | .setStdout attached => (.ok (), { session with stdoutAttached := attached })
  | .setStderr attached => (.ok (), { session with stderrAttached := attached })
  | .beginPipe => (.ok (), { session with pipeline := session.pipeline.begin })
  | .advancePipe last => session.onPipeline (Pipeline.advance last)
  | .finishPipe => (.ok (), { session with pipeline := session.pipeline.finish })
  | .clearBuffers => session.onPipeline Pipeline.clearBuffers
  | .closeBuffers => (.ok (), session.close)
  | .remember note => (.ok (), session.remember note)

/-- Runs a program, lines that it runs being run by `run`. -/
def play (run : LineRunner) : Program → Session → Attempt Session Value
  | .done value, session => (.ok value, session)
  | .fail fault, session => (.error fault, session)
  | .ask request next, session =>
    play run (next (session.answer run request).1) (session.answer run request).2
  | .register name description body next, session =>
    play run next (session.register ⟨{ name, description }, some body⟩)

/-- Runs a command with arguments, for its exit code. -/
def invoke (run : LineRunner) (command : Command) (args : List Text) (session : Session) :
    Attempt Session Int :=
  match command.body with
  | none => (.error (.defect .noProgram), session)
  | some body =>
    match play run (body args) session with
    | (.ok value, after) => (value.exitCode.mapError .defect, after)
    | (.error fault, after) => (.error fault, after)

end Session

end PipedShell
