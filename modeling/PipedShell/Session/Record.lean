import PipedShell.PipeRange
import PipedShell.Text.Quoted

/-!
# Log records

The shell logs what it does.  A record is the event itself; how it reads in a log is a function of
it.

* `Record` is an event, `Record.level` its weight, `Record.channel` the part of the shell that it
  comes from, `Record.message` the wording.
* `Record.line` is the line of a log; `Record.isShown` tells whether a log shows it.
-/

namespace PipedShell

/-- The weights of records. -/
inductive Level where
  | debug
  | info
  | warning
  deriving DecidableEq, Repr

/-- The name of a weight in a log. -/
def Level.name : Level → Text
  | debug => "DEBUG"
  | info => "INFO"
  | warning => "WARNING"

/-- Something that the shell logs. -/
inductive Record where
  /-- A line was read as these ranges. -/
  | parsed (ranges : List PipeRange)
  /-- A command starts. -/
  | dispatching (stage : Stage)
  /-- A command asks to leave the shell. -/
  | exitRequested (name : Text) (code : Int)
  /-- A range is not run because of its boundary. -/
  | skipping (boundary : Option Boundary)
  /-- A line is refused or fails as a whole. -/
  | rejected (line : Text) (fault : LineFault)
  /-- The shell starts to read lines. -/
  | loopStarted
  /-- The shell has read its last line. -/
  | loopFinished (code : Int)
  /-- There is no line editor to complete with. -/
  | completionUnavailable
  deriving DecidableEq, Repr

namespace Record

/-- The weight of a record. -/
def level : Record → Level
  | parsed _ | dispatching _ | exitRequested _ _ | skipping _ => .debug
  | loopStarted | loopFinished _ | completionUnavailable => .info
  | rejected _ _ => .warning

/-- The part of the shell that a record comes from. -/
def channel : Record → Text
  | parsed _ => "pipeshell.parser"
  | dispatching _ | exitRequested _ _ | skipping _ => "pipeshell.executor"
  | rejected _ _ | loopStarted | loopFinished _ => "pipeshell"
  | completionUnavailable => "pipeshell.completion"

/-- The wording of a record. -/
def message : Record → Text
  | parsed ranges =>
    "parsed " ++ Text.ofInt ranges.length ++ " range(s): " ++
      Text.bracketed (ranges.map fun range =>
        Text.bracketed (range.stages.map fun stage => Text.quotedList stage.words))
  | dispatching stage => "dispatching " ++ stage.name ++ " " ++ Text.quotedList stage.args
  | exitRequested name code => name ++ " requested exit with code " ++ Text.ofInt code
  | skipping boundary => "skipping range after " ++ (boundary.map Boundary.spelling).getD []
  | rejected line fault => "rejected line " ++ line.quoted ++ ": " ++ fault.message
  | loopStarted => "shell loop started"
  | loopFinished code => "shell loop finished with code " ++ Text.ofInt code
  | completionUnavailable => "readline unavailable, completion disabled"

/-- A log shows warnings always, and everything when it is verbose. -/
def isShown (verbose : Bool) (record : Record) : Bool := verbose || record.level == .warning

/-- The line of a log. -/
def line (record : Record) : Text :=
  record.level.name ++ " " ++ record.channel ++ ": " ++ record.message ++ "\n"

end Record

end PipedShell
