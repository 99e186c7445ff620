import PipedShell.Program

/-!
# Scripted commands

A script is a list of actions that a command runs in order.  It is a plain way to write down what a
command does where no decision depends on what was read.

* `Script.Action` is an action; a script is a list of them.
* `Script.body` is the command that runs a script: it stops at the first fault or at an action that
  returns, and returns nothing when it comes to the end.

What an action learns from the shell is remembered under the name of the action.
-/

namespace PipedShell

namespace Script

/-- A value that can be printed. -/
inductive Printed where
  | nothing
  | truth (b : Bool)
  | integer (n : Int)
  | text (t : Text)
  deriving DecidableEq, Repr

/-- How a value is printed. -/
def Printed.render : Printed → Text
  | nothing => "None"
  | truth true => "True"
  | truth false => "False"
  | integer n => Text.ofInt n
  | text t => t

/-- The actions of scripts. -/
inductive Action where
  /-- Writes a text. -/
  | write (text : Text)
  /-- Writes every argument on a line of its own, all at once. -/
  | writeArgs
  /-- Writes values with a separator between them and an ending. -/
  | print (values : List Printed) (separator ending : Text)
  /-- Writes a text to the error stream. -/
  | writeError (text : Text)
  /-- Writes all of the input. -/
  | copy
  /-- Remembers what is read. -/
  | read (name : Text) (how : Reading)
  /-- Remembers all of the standard input, past any rest of a line held back. -/
  | readStdin (name : Text)
  /-- Remembers the arguments. -/
  | args (name : Text)
  /-- Remembers where the ends of the pipe lead. -/
  | routing (name : Text)
  /-- Remembers what the buffers hold. -/
  | bufferContents (name : Text)
  /-- Runs a line and remembers how it ends. -/
  | execute (name line : Text)
  /-- Runs a line, a refusal being reported, and remembers how it ends. -/
  | runLine (name line : Text)
  /-- Remembers the exit code of the last line. -/
  | lastCode (name : Text)
  /-- Registers a command that runs a script. -/
  | register (name : Text) (actions : List Action)
  /-- Takes a command out of the registry. -/
  | unregister (name : Text)
  /-- Shows another prompt from now on. -/
  | setPrompt (prompt : Text)
  /-- Reads the standard input from a text from now on. -/
  | setStdin (text : Text)
  /-- Has no standard output from now on. -/
  | dropStdout
  /-- Fails. -/
  | fail (fault : Fault)
  /-- Returns a value. -/
  | returns (value : Value)
  /-- Returns an argument as an integer; a negative index counts from the last argument. -/
  | returnsArg (index : Int)

/-- The argument at an index, a negative index counting from the last one. -/
def argAt? (index : Int) (args : List Text) : Option Text :=
  if index ≥ 0 then args[index.toNat]?
  else if index + args.length ≥ 0 then args[(index + args.length).toNat]?
  else none

/-- Asks for something, remembers the answer and goes on. -/
def learn (name : Text) (request : Request) (datum : request.Reply → Datum) (next : Program) :
    Program :=
  .need request fun reply => .need (.remember ⟨name, datum reply⟩) fun _ => next

/-- Something read, or nothing at the end of the input. -/
def ofReading : Option Text → Datum
  | some t => .text t
  | none => .nothing

mutual

/-- What an action does before `next`, with the given arguments. -/
def Action.program (args : List Text) (next : Program) : Action → Program
  | .write text => .write text next
  | .writeArgs => .write (Text.unlines args) next
  | .print values separator ending =>
    .write (Text.join separator (values.map Printed.render) ++ ending) next
  | .writeError text => .writeError text next
  | .copy => .readAll fun text => .write text next
  | .read name how => learn name (.read how) ofReading next
  | .readStdin name => learn name .readStdin .text next
  | .args name => .need (.remember ⟨name, .texts args⟩) fun _ => next
  | .routing name => learn name .routing .pipes next
  | .bufferContents name => learn name .bufferContents .texts next
  | .execute name line => learn name (.execute line) .outcome next
  | .runLine name line => learn name (.runLine line) .outcome next
  | .lastCode name => learn name .lastCode .integer next
  | .register name actions => .register name [] (fun args => programOf args actions) next
  | .unregister name => .need (.unregister name) fun _ => next
  | .setPrompt prompt => .need (.setPrompt prompt) fun _ => next
  | .setStdin text => .need (.setStdin text) fun _ => next
  | .dropStdout => .need (.setStdout false) fun _ => next
  | .fail fault => .fail fault
  | .returns value => .done value
  | .returnsArg index =>
    match argAt? index args with
    | none => .fail (.defect .indexOutOfRange)
    | some arg =>
      match arg.readInt with
      | .ok n => .result n
      | .error fault => .fail (.defect (.badInteger fault))

/-- The program of actions run in order, with the given arguments. -/
def programOf (args : List Text) : List Action → Program
  | [] => .done .none
  | action :: actions => action.program args (programOf args actions)

end

/-- The command that runs a script. -/
def body (actions : List Action) : Body := fun args => programOf args actions

end Script

end PipedShell
