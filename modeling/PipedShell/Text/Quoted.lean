import PipedShell.Text
import PipedShell.Text.Printable

/-!
# Quoted texts

The form in which diagnostics show a text: between quotes, with escapes for the quote itself, the
backslash and everything that would not show.  Single quotes are used unless the text holds a
single quote and no double one.

* `Text.quoted` quotes a text, `Text.quotedList` a list of texts in brackets.
* `Text.escaped` is the form of one character between given quotes.
-/

namespace PipedShell.Text

/-- The lower-case hexadecimal digits of a number, filled up with zeros to `width`. -/
def hexadecimal (width n : Nat) : Text :=
  let digits := Nat.toDigits 16 n
  List.replicate (width - digits.length) '0' ++ digits

/-- A character by number: two, four or eight hexadecimal digits. -/
def escapedCode (c : Char) : Text :=
  let n := c.toNat
  if n ≤ 0xff then "\\x" ++ hexadecimal 2 n
  else if n ≤ 0xffff then "\\u" ++ hexadecimal 4 n
  else "\\U" ++ hexadecimal 8 n

/-- A character between quotes of the given kind. -/
def escaped (quote c : Char) : Text :=
  if c == quote || c == '\\' then ['\\', c]
  else if c == '\n' then "\\n"
  else if c == '\r' then "\\r"
  else if c == '\t' then "\\t"
  else if isPrintable c then [c]
  else escapedCode c

/-- The quotes for a text: double ones only around a single quote without a double one. -/
def quoteFor (t : Text) : Char := if t.elem '\'' && !t.elem '"' then '"' else '\''

/-- A text between quotes, every character visible. -/
def quoted (t : Text) : Text :=
  let quote := quoteFor t
  quote :: t.flatMap (escaped quote) ++ [quote]

/-- Items in brackets with a comma between neighbours. -/
def bracketed (items : List Text) : Text := "[" ++ join ", " items ++ "]"

/-- A list of texts, each quoted. -/
def quotedList (ts : List Text) : Text := bracketed (ts.map quoted)

end PipedShell.Text
