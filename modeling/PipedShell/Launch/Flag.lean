import PipedShell.Command.Spec
import PipedShell.Text.Lines

/-!
# The options of the program

How the program is started is said by a handful of flags.  Some of them take a value, and some can
be written in two ways.

* `Flag` is a flag; `Flag.spellings` is how it is written, `Flag.valueName?` what its value is
  called in help texts if it takes one.
* `usage` and `helpText` describe all flags.
-/

namespace PipedShell.Launch

/-- The flags of the program. -/
inductive Flag where
  /-- Shows the help text. -/
  | help
  /-- Runs one line. -/
  | command
  /-- Shows another prompt. -/
  | prompt
  /-- Skips ranges. -/
  | shortCircuit
  /-- Logs everything. -/
  | verbose
  deriving DecidableEq, Repr

namespace Flag

/-- Every flag, in the order of help texts. -/
def all : List Flag := [help, command, prompt, shortCircuit, verbose]

/-- How a flag is written. -/
def spellings : Flag → List Text
  | help => ["-h", "--help"]
  | command => ["-c"]
  | prompt => ["--prompt"]
  | shortCircuit => ["--short-circuit"]
  | verbose => ["-v", "--verbose"]

/-- What the value of a flag is called, none for a flag without a value. -/
def valueName? : Flag → Option Text
  | command => some "COMMAND"
  | prompt => some "PROMPT"
  | help | shortCircuit | verbose => none

/-- Whether a flag takes a value. -/
def takesValue (flag : Flag) : Bool := flag.valueName?.isSome

/-- What a flag is for. -/
def summary : Flag → Text
  | help => "show this help message and exit"
  | command => "run one line and exit"
  | prompt => "prompt text"
  | shortCircuit => "skip ranges like a POSIX shell"
  | verbose => "debug logging on stderr"

/-- How messages name a flag. -/
def label (flag : Flag) : Text := Text.join "/" flag.spellings

/-- A spelling with the name of the value. -/
def withValue (flag : Flag) (spelling : Text) : Text :=
  match flag.valueName? with
  | some name => spelling ++ " " ++ name
  | none => spelling

/-- Every spelling with its flag, in the order of help texts. -/
def spelled : List (Text × Flag) :=
  all.flatMap fun flag => flag.spellings.map fun spelling => (spelling, flag)

/-- The flag that is written so. -/
def ofSpelling? (spelling : Text) : Option Flag :=
  (spelled.find? fun entry => entry.1 == spelling).map (·.2)

end Flag

/-- The name of the program. -/
def programName : Text := "pipeshell"

/-- The line that shows every flag in its first spelling. -/
def usage : Text :=
  "usage: " ++ Text.join " " (programName :: Flag.all.map fun flag =>
    "[" ++ flag.withValue (flag.spellings.headD []) ++ "]") ++ "\n"

/-- The text that describes the program and every flag. -/
def helpText : Text :=
  let rows := Flag.all.map fun flag =>
    (Text.join ", " (flag.spellings.map flag.withValue), flag.summary)
  usage ++ "\ninteractive command shell\n\n" ++
    Text.unlines ("options:" :: Spec.table rows)

end PipedShell.Launch
