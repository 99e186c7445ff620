import PipedShell.Command.Spec
import PipedShell.Fault
import PipedShell.Number.Binary64
import PipedShell.Pipe.Source
import PipedShell.Pipe.Routing

/-!
# Programs of commands

A command is a finite interactive program: it asks the session that runs it for one thing after
another, and what it does next depends on the answers.  Programs are values, so a statement about
all commands is a statement about all programs, and built-in commands are examples of them.

* `Request` is what a program may ask for, `Request.Reply` the type of the answer.
* `Program` is a program: done with a value, failing with a fault, or asking and going on.  An
  answer can be a fault too; most programs give up on one (`Program.need`), but they do not have to.
* `Value` is what a program returns, `Value.exitCode` the code that it stands for.
* `Outcome` is how a line ends: the shell goes on, or it is left.
-/

namespace PipedShell

/-- How running a line ends. -/
inductive Outcome where
  /-- The shell goes on. -/
  | proceed (code : Int)
  /-- A command asked to leave the shell. -/
  | terminate (code : Int)
  deriving DecidableEq, Repr

namespace Outcome

/-- The exit code. -/
def code : Outcome → Int
  | proceed code => code
  | terminate code => code

/-- Whether the shell is left. -/
def isTerminate : Outcome → Bool
  | proceed _ => false
  | terminate _ => true

end Outcome

/-- What a program returns. -/
inductive Value where
  /-- Nothing. -/
  | none
  | integer (n : Int)
  | truth (b : Bool)
  | text (t : Text)
  /-- The number `mantissa` times ten to the power of `exponent`. -/
  | real (mantissa exponent : Int)
  /-- Something that is no number and no text; `kind` names what it is. -/
  | other (kind : Text)
  deriving DecidableEq, Repr

namespace Value

/-- The exit code that a value stands for: nothing is success, a truth value is a bit, a text is
read as an integer, and a number loses its fraction. -/
def exitCode : Value → Except Defect Int
  | none => .ok 0
  | integer n => .ok n
  | truth b => .ok (if b then 1 else 0)
  | text t => t.readInt.mapError .badInteger
  | real mantissa exponent =>
    match Binary64.integerPart? mantissa exponent with
    | some n => .ok n
    | .none => .error .infinite
  | other kind => .error (.notNumeric kind)

end Value

/-- Something that a program wants to be remembered. -/
inductive Datum where
  | nothing
  | text (t : Text)
  | integer (n : Int)
  | texts (ts : List Text)
  | outcome (o : Outcome)
  | pipes (routing : Routing)
  deriving DecidableEq, Repr

/-- A datum under a name. -/
structure Note where
  name : Text
  datum : Datum
  deriving DecidableEq, Repr

/-- What a program may ask of the session that runs it. -/
inductive Request where
  /-- Write to the output of the stage. -/
  | write (text : Text)
  /-- Write to the error stream. -/
  | writeError (text : Text)
  /-- Read from the input of the stage. -/
  | read (how : Reading)
  /-- Read all of the standard input, past any rest of a line held back. -/
  | readStdin
  /-- Run a line. -/
  | execute (line : Text)
  /-- Run a line, a refusal being reported. -/
  | runLine (line : Text)
  /-- Tell the exit code of the last line. -/
  | lastCode
  /-- Tell where the ends of the pipe lead. -/
  | routing
  /-- Tell what the two buffers hold. -/
  | bufferContents
  /-- Describe the command of a name. -/
  | describe (name : Text)
  /-- Describe all commands in order of their names. -/
  | describeAll
  /-- Take a command out of the registry. -/
  | unregister (name : Text)
  /-- Show another prompt from now on. -/
  | setPrompt (prompt : Text)
  /-- Read the standard input from a text from now on. -/
  | setStdin (text : Text)
  /-- Have a standard output, or have none. -/
  | setStdout (attached : Bool)
  /-- Have an error stream, or have none. -/
  | setStderr (attached : Bool)
  /-- Open the pipe. -/
  | beginPipe
  /-- Move the ends of the pipe on. -/
  | advancePipe (last : Bool)
  /-- Close the pipe. -/
  | finishPipe
  /-- Empty the buffers. -/
  | clearBuffers
  /-- Close the buffers that belong to the shell. -/
  | closeBuffers
  /-- Remember something. -/
  | remember (note : Note)

/-- The type of the answer to a request. -/
def Request.Reply : Request → Type
  | read _ => Option Text
  | readStdin => Text
  | execute _ | runLine _ => Outcome
  | lastCode => Int
  | routing => Routing
  | bufferContents => List Text
  | describe _ => Option Spec
  | describeAll => List Spec
  | _ => Unit

/-- A finite interactive program. -/
inductive Program where
  /-- Returns a value. -/
  | done (value : Value)
  /-- Fails. -/
  | fail (fault : Fault)
  /-- Asks for something and goes on with the answer, which is a fault if it was refused. -/
  | ask (request : Request) (next : Except Fault request.Reply → Program)
  /-- Registers a command under a name and goes on. -/
  | register (name description : Text) (body : List Text → Program) (next : Program)

namespace Program

/-- Asks for something and goes on with the answer; gives up on a fault. -/
def need (request : Request) (next : request.Reply → Program) : Program :=
  ask request fun
    | .ok reply => next reply
    | .error fault => fail fault

/-- Writes a text and goes on. -/
def write (text : Text) (next : Program) : Program := need (.write text) fun _ => next

/-- Writes a text to the error stream and goes on. -/
def writeError (text : Text) (next : Program) : Program := need (.writeError text) fun _ => next

/-- Reads all of the input and goes on with it. -/
def readAll (next : Text → Program) : Program :=
  need (.read .all) fun reply => next (reply.getD [])

/-- Reads all lines of the input and goes on with them.  A program is finite, so it cannot ask for
one line after another until there is none; it takes the whole input, which has the same lines. -/
def readLines (next : List Text → Program) : Program := readAll fun text => next text.lines

/-- Returns an exit code. -/
def result (code : Int) : Program := done (.integer code)

end Program

/-- What runs a command: it is given the arguments. -/
abbrev Body := List Text → Program

end PipedShell
