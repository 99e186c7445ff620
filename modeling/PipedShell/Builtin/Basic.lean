import PipedShell.Program

/-!
# Built-in commands for the shell itself

* `Builtin.echo` prints its arguments, or its input when it has none.
* `Builtin.help` lists the commands or shows what one of them says about itself.
* `Builtin.exit` asks to leave the shell.
* `Builtin.clear` clears the screen, `Builtin.succeed` and `Builtin.failure` only return a code.
-/

namespace PipedShell.Builtin

/-- What makes a terminal clear its screen and go to the upper left corner. -/
def clearSequence : Text := "\x1b[2J\x1b[H"

/-- Prints the arguments on one line; without arguments, copies the input and ends its last line. -/
def echo : Body
  | [] => .readAll fun text => .write text.terminated (.result 0)
  | args => .write (Text.join " " args ++ "\n") (.result 0)

/-- The heading of what is shown about a command. -/
def heading (spec : Spec) : Text :=
  if spec.description.isEmpty then spec.name ++ "\n"
  else spec.name ++ ": " ++ spec.description ++ "\n"

/-- The list of all commands. -/
def listing (specs : List Spec) : Text :=
  Text.join "\n" ("Available commands:" ::
    Spec.table (specs.map fun spec => (spec.name, spec.description))) ++ "\n"

/-- Lists the commands, or shows the one named by the first argument. -/
def help : Body
  | [] => .need .describeAll fun specs => .write (listing specs) (.result 0)
  | name :: _ => .need (.describe name) fun
    | none => .writeError ("help: no such command: " ++ name ++ "\n") (.result 1)
    | some spec => .write (heading spec) (.write spec.usage (.result 0))

/-- Asks to leave the shell with the code given, zero when none is. -/
def exit : Body
  | [] => .fail (.exit 0)
  | arg :: _ =>
    match arg.readInt with
    | .ok code => .fail (.exit code)
    | .error _ => .writeError ("exit: numeric argument required: " ++ arg ++ "\n") (.result 1)

/-- Clears the screen. -/
def clear : Body := fun _ => .write clearSequence (.result 0)

/-- Does nothing, successfully. -/
def succeed : Body := fun _ => .result 0

/-- Does nothing, unsuccessfully. -/
def failure : Body := fun _ => .result 1

end PipedShell.Builtin
