import PipedShell.Text.Blank
import PipedShell.Text.Digit
import PipedShell.Text.Quoted

/-!
# Integers written as text

Arguments that are numbers are read leniently: blanks around the number, one sign directly before
it, decimal digits of any script, and single underscores between digits.  Nothing bounds the value,
but a literal of more than 4300 digits is refused, whatever follows its digits.

* `Text.readInt` reads a literal; `IntegerFault` says why one is refused.
* `wellGrouped` checks the placement of underscores.
-/

namespace PipedShell

/-- Why a text is not read as an integer. -/
inductive IntegerFault where
  /-- The text has not the form of an integer. -/
  | malformed (literal : Text)
  /-- The literal has more digits than are read. -/
  | tooLong (digits : Nat)
  deriving DecidableEq, Repr

namespace IntegerFault

/-- A quoted literal is shown up to this many characters. -/
def shownLength : Nat := 200

/-- The wording of a refusal. -/
def message : IntegerFault → Text
  | malformed literal =>
    "invalid literal for int() with base 10: " ++ literal.quoted.take shownLength
  | tooLong digits =>
    "Exceeds the limit (4300 digits) for integer string conversion: value has " ++
      Text.ofInt digits ++ " digits; use sys.set_int_max_str_digits() to increase the limit"

end IntegerFault

/-- The most digits that a literal may have. -/
def maxIntegerDigits : Nat := 4300

/-- Blanks that may surround a number: all but the information separators. -/
def isNumberBlank (c : Char) : Bool := isBlank c && !(0x1c ≤ c.toNat && c.toNat ≤ 0x1f)

/-- A character of a run of digits, which an underscore may group. -/
def isDigitOrUnderscore (c : Char) : Bool := c == '_' || (digitValue? c).isSome

/-- Every underscore of the run stands between two digits. -/
def wellGrouped (run : Text) : Bool :=
  !run.isEmpty && run.head? != some '_' && run.getLast? != some '_' && !run.hasPiece ['_', '_']

/-- The number that digits of any script write. -/
def decimalValue (digits : Text) : Nat :=
  digits.foldl (fun n c => 10 * n + (digitValue? c).getD 0) 0

namespace Text

/-- A text without the blanks around a number. -/
def trimNumber (t : Text) : Text :=
  ((t.dropWhile isNumberBlank).reverse.dropWhile isNumberBlank).reverse

/-- Splits off the sign: `true` for a minus. -/
def splitSign : Text → Bool × Text
  | '+' :: rest => (false, rest)
  | '-' :: rest => (true, rest)
  | t => (false, t)

/-- Reads an integer. -/
def readInt (t : Text) : Except IntegerFault Int :=
  let (negative, body) := splitSign (trimNumber t)
  let run := body.takeWhile isDigitOrUnderscore
  let digits := run.filter (· != '_')
  if !wellGrouped run then .error (.malformed t)
  else if digits.length > maxIntegerDigits then .error (.tooLong digits.length)
  else if run.length < body.length then .error (.malformed t)
  else .ok (if negative then -(decimalValue digits : Int) else decimalValue digits)

end Text

end PipedShell
