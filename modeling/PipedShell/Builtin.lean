import PipedShell.Builtin.Basic
import PipedShell.Builtin.Filters
import PipedShell.Builtin.Sequence
import PipedShell.Session

/-!
# The built-in commands

`Builtin.commands` is the registry that a new shell starts with: every built-in command with its
description and its options.
-/

namespace PipedShell.Builtin

/-- A command with a program and without options. -/
def command (name description : Text) (body : Body) : Command :=
  ⟨{ name, description }, some body⟩

/-- A command with one option more. -/
def withOption (option : CommandOption) (command : Command) : Command :=
  { command with spec := command.spec.insertOption option }

/-- The option of commands that keep a number of lines. -/
def linesOption : CommandOption := ⟨"lines", "n", "number of lines"⟩

/-- Every built-in command. -/
def all : List Command :=
  [command "exit" "exit the shell with an optional code" exit,
    command "echo" "print arguments, or copy input when given none" echo,
    command "help" "list commands or show help for one" help,
    command "clear" "clear the screen" clear,
    command "true" "do nothing, successfully" succeed,
    command "false" "do nothing, unsuccessfully" failure,
    command "cat" "copy input to output" cat,
    withOption ⟨"ignore-case", "i", "match case-insensitively"⟩
      (command "grep" "print input lines containing a pattern" grep),
    withOption linesOption (command "head" "print the first lines of input" head),
    withOption linesOption (command "tail" "print the last lines of input" tail),
    withOption ⟨"lines", "l", "count lines"⟩ (command "wc" "count input lines" wc),
    command "seq" "print a sequence of numbers" seq]

/-- The commands of a new shell. -/
def commands : Commands := Registry.ofList all

end PipedShell.Builtin
