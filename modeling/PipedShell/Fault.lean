import PipedShell.Text
import PipedShell.Text.Integer
import PipedShell.Text.Quoted
import PipedShell.Token

/-!
# What can go wrong

Faults are causes; the wording is a function of the cause.  There are three groups, by who has to
deal with them.

* `LineFault`: a line is refused or fails as a whole.  The shell reports it and reads on.
* `Fault.exit`: no failure but the request of a command to leave the shell.
* `Defect`: a command or a stream is broken.  The run ends and its caller learns of it.
-/

namespace PipedShell

/-- Why a line is refused, or fails as a whole. -/
inductive LineFault where
  /-- A quote is opened and not closed. -/
  | unbalancedQuote (quote : Char)
  /-- There are no tokens. -/
  | emptyLine
  /-- A stage names a command that is not registered. -/
  | unknownCommand (name : Text)
  /-- An operator stands where a command has to start. -/
  | missingBefore (operator : Text)
  /-- The line ends after an operator. -/
  | missingAfter (operator : Text)
  /-- The line has more characters than the limit. -/
  | lineTooLong (limit : Int)
  /-- The line has more stages than the limit. -/
  | tooManyStages (limit : Int)
  /-- A command writes where nothing takes the text. -/
  | closedPipe (detail : Text)
  /-- A command gives up for a reason of its own. -/
  | refused (reason : Text)
  deriving DecidableEq, Repr

namespace LineFault

/-- What is reported of a closed pipe when nothing more is known. -/
def closedPipeDetail : Text := "write to a closed pipe"

/-- What is reported of a closed pipe when the shell has no output stream. -/
def noOutputDetail : Text := "no output stream available"

/-- The text reported to the user. -/
def message : LineFault → Text
  | unbalancedQuote quote => "syntax error: unbalanced quote " ++ [quote]
  | emptyLine => "parse error: empty command line"
  | unknownCommand name => name ++ ": command not found"
  | missingBefore operator => "parse error: missing command before '" ++ operator ++ "'"
  | missingAfter operator => "parse error: missing command after '" ++ operator ++ "'"
  | lineTooLong limit => "command too long (max " ++ Text.ofInt limit ++ ")"
  | tooManyStages limit => "too many pipeline stages (max " ++ Text.ofInt limit ++ ")"
  | closedPipe detail => detail
  | refused reason => reason

end LineFault

/-- What is broken in a command or a stream. -/
inductive Defect where
  /-- A closed buffer is used. -/
  | closedStream
  /-- A text that has to be an integer is none. -/
  | badInteger (fault : IntegerFault)
  /-- A value of the named kind has to be a number. -/
  | notNumeric (kind : Text)
  /-- A number has no integer part. -/
  | infinite
  /-- An item is asked for that the list does not have, such as an argument not given. -/
  | indexOutOfRange
  /-- A command has no program to run. -/
  | noProgram
  /-- A command is to be registered by its name alone. -/
  | nameWithoutProgram
  /-- A command fails for a reason of its own. -/
  | failed (reason : Text)
  /-- Two results are to be combined by something that is neither `&&` nor `||`. -/
  | notBoundary (kind : Option Token.Kind)
  /-- Lines run lines too deep. -/
  | nestedTooDeep
  /-- A number that is not finite is to be sent. -/
  | notFinite
  /-- Halves of surrogate pairs are to be sent: the first, the place of it, and how many there are
  in a row. -/
  | loneHalf (half place count : Nat)
  deriving DecidableEq, Repr

namespace Defect

/-- How a diagnostic names what was given instead of a boundary operator. -/
def kindName : Option Token.Kind → Text
  | none => "None"
  | some .word => "TokenKind.WORD"
  | some .pipe => "TokenKind.PIPE"
  | some .andThen => "TokenKind.AND"
  | some .orElse => "TokenKind.OR"

/-- The text that describes the defect. -/
def message : Defect → Text
  | closedStream => "I/O operation on closed file"
  | badInteger fault => fault.message
  | notNumeric kind =>
    "int() argument must be a string, a bytes-like object or a real number, not '" ++ kind ++ "'"
  | infinite => "cannot convert float infinity to integer"
  | indexOutOfRange => "list index out of range"
  | noProgram => ""
  | nameWithoutProgram => "insert_command() needs a function when given a name"
  | failed reason => reason
  | notBoundary kind => "not a boundary operator: " ++ kindName kind
  | nestedTooDeep => "maximum recursion depth exceeded"
  | notFinite => "Out of range float values are not JSON compliant"
  | loneHalf half place count =>
    "'utf-8' codec can't encode " ++
      (if count == 1 then
        "character '\\u" ++ Text.hexadecimal 4 half ++ "' in position " ++ Text.ofInt place
      else
        "characters in position " ++ Text.ofInt place ++ "-" ++ Text.ofInt (place + count - 1)) ++
      ": surrogates not allowed"

end Defect

/-- Why a run does not come back with a value. -/
inductive Fault where
  /-- The line fails as a whole. -/
  | line (fault : LineFault)
  /-- A command asks to leave the shell with this code. -/
  | exit (code : Int)
  /-- A command or a stream is broken. -/
  | defect (cause : Defect)
  deriving DecidableEq, Repr

namespace Fault

/-- The text that describes the fault. -/
def message : Fault → Text
  | .line fault => fault.message
  | .exit code => "session exit requested with code " ++ Text.ofInt code
  | .defect cause => cause.message

end Fault

/-- What acting on a state comes to: a value or a fault, and the state afterwards either way. -/
abbrev Attempt (σ α : Type) := Except Fault α × σ

end PipedShell
