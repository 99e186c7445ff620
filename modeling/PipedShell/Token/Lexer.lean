import PipedShell.Fault
import PipedShell.Token

/-!
# Cutting a line into tokens

The line is read once, character by character, in one of three modes.

* Outside quotes, separators end a word and a backslash takes the next character as it is; a
  backslash at the end of the line is dropped.
* Between single quotes a backslash before a backslash or a single quote is dropped; every other
  backslash stays.
* Between double quotes a backslash and a letter of `doubleEscape` make a control character, and
  any other character after a backslash stands for itself.

An operator is recognised only where it stands alone: where a word could begin, and followed by a
separator or the end of the line.  A pair of quotes makes a word even when nothing is between them.

* `scan` is the reader, `tokenize` runs it on a whole line.
* `Lexed` is its result: the tokens completed, and the quote that was left open if one was.
* `wordsOfLine` is the texts of the tokens.
-/

namespace PipedShell

/-- Where the reader stands. -/
inductive LexMode where
  /-- Not between quotes. -/
  | outside
  /-- After a backslash that is not between quotes. -/
  | escaped
  /-- Between single quotes. -/
  | single
  /-- After a backslash between single quotes. -/
  | singleEscaped
  /-- Between double quotes. -/
  | double
  /-- After a backslash between double quotes. -/
  | doubleEscaped
  /-- Before the second character of an operator already recognised. -/
  | inOperator
  deriving DecidableEq, Repr

/-- The quote that is open where the reader stands. -/
def LexMode.openQuote : LexMode → Option Char
  | outside | escaped | inOperator => none
  | single | singleEscaped => some '\''
  | double | doubleEscaped => some '"'

/-- The control characters that a letter after a backslash stands for between double quotes. -/
def doubleEscape (c : Char) : Char :=
  if c == 'a' then '\x07'
  else if c == 'b' then '\x08'
  else if c == 't' then '\t'
  else if c == 'n' then '\n'
  else if c == 'v' then '\x0b'
  else if c == 'f' then '\x0c'
  else if c == 'r' then '\r'
  else c

/-- What a backslash and the character after it stand for between single quotes. -/
def singleEscape (c : Char) : Text := if c == '\\' || c == '\'' then [c] else ['\\', c]

/-- An operator may end here: the line ends or a separator follows. -/
def standsAlone : Text → Bool
  | [] => true
  | c :: _ => isSeparator c

/-- The operator at the start of a text, if one stands there alone.  Of two spellings that both
fit only the longer one is tried. -/
def leadingOperator : Text → Option Token.Kind
  | '|' :: '|' :: rest => if standsAlone rest then some .orElse else none
  | '&' :: '&' :: rest => if standsAlone rest then some .andThen else none
  | '|' :: rest => if standsAlone rest then some .pipe else none
  | _ => none

/-- What reading a line comes to. -/
structure Lexed where
  /-- The tokens completed, in order. -/
  tokens : List Token
  /-- The quote that is opened and not closed. -/
  openQuote : Option Char
  deriving DecidableEq, Repr

namespace Lexed

/-- A further token in front. -/
def cons (token : Token) (lexed : Lexed) : Lexed := ⟨token :: lexed.tokens, lexed.openQuote⟩

/-- The word that ends here, if one was begun, in front. -/
def consWord (word : Option Text) (lexed : Lexed) : Lexed :=
  match word with
  | some reversed => lexed.cons (.ofWord reversed.reverse)
  | none => lexed

/-- The line is well quoted. -/
def isOk (lexed : Lexed) : Bool := lexed.openQuote.isNone

/-- The state of the quoting in words. -/
def status (lexed : Lexed) : Text :=
  match lexed.openQuote with
  | none => "ok"
  | some quote => "unbalanced quote: " ++ [quote]

/-- The tokens, unless a quote was left open. -/
def check (lexed : Lexed) : Except LineFault (List Token) :=
  match lexed.openQuote with
  | none => .ok lexed.tokens
  | some quote => .error (.unbalancedQuote quote)

end Lexed

/-- A begun word with one more character, both read backwards. -/
def extendWord (word : Option Text) (c : Char) : Option Text := some (c :: word.getD [])

/-- Reads on in the given mode; `word` is the reversed text of the word begun, if there is one. -/
def scan (mode : LexMode) (word : Option Text) : Text → Lexed
  | [] =>
    match mode.openQuote with
    | none => Lexed.consWord word ⟨[], none⟩
    | some quote => ⟨[], some quote⟩
  | c :: rest =>
    match mode with
    | .outside =>
      if isSeparator c then (scan .outside none rest).consWord word
      else if c == '\\' then scan .escaped word rest
      else if c == '\'' then scan .single (some (word.getD [])) rest
      else if c == '"' then scan .double (some (word.getD [])) rest
      else if word.isSome then scan .outside (extendWord word c) rest
      else match leadingOperator (c :: rest) with
        | some .pipe => (scan .outside none rest).cons (.ofOperator .pipe)
        | some kind => (scan .inOperator none rest).cons (.ofOperator kind)
        | none => scan .outside (extendWord word c) rest
    | .escaped => scan .outside (extendWord word c) rest
    | .single =>
      if c == '\'' then scan .outside word rest
      else if c == '\\' then scan .singleEscaped word rest
      else scan .single (extendWord word c) rest
    | .singleEscaped => scan .single (some ((singleEscape c).reverse ++ word.getD [])) rest
    | .double =>
      if c == '"' then scan .outside word rest
      else if c == '\\' then scan .doubleEscaped word rest
      else scan .double (extendWord word c) rest
    | .doubleEscaped => scan .double (extendWord word (doubleEscape c)) rest
    | .inOperator => scan .outside none rest

/-- The tokens of a line. -/
def tokenize (line : Text) : Lexed := scan .outside none line

/-- The texts of the tokens of a line, unless a quote is left open. -/
def wordsOfLine (line : Text) : Except LineFault (List Text) :=
  (tokenize line).check.map (·.map Token.text)

end PipedShell
