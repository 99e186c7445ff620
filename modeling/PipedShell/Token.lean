import PipedShell.Text

/-!
# Tokens of a command line

A line is a sequence of words and of the operators `|`, `&&` and `||`.  A word keeps its text with
all quoting removed; an operator keeps the text it was written with.

* `Token.Kind` tells words and the three operators apart; `Token.Kind.spelling` is how each is
  shown.
* `Token` is a kind with a text.
* `isSeparator` is the set of characters that end a word: lexer white space and parentheses.
-/

namespace PipedShell

/-- The kinds of token. -/
inductive Token.Kind where
  /-- A command name or an argument. -/
  | word
  /-- Hands the output of one stage to the next. -/
  | pipe
  /-- Goes on after success. -/
  | andThen
  /-- Goes on after failure. -/
  | orElse
  deriving DecidableEq, Repr

namespace Token.Kind

/-- How a kind is shown: an operator as it is written. -/
def spelling : Token.Kind → Text
  | word => "word"
  | pipe => "|"
  | andThen => "&&"
  | orElse => "||"

/-- Every kind but that of words. -/
def isOperator (kind : Token.Kind) : Bool := kind != word

end Token.Kind

/-- A word or an operator of a line. -/
structure Token where
  kind : Token.Kind
  text : Text
  deriving DecidableEq, Repr

namespace Token

/-- A word with the given text. -/
def ofWord (text : Text) : Token := ⟨.word, text⟩

/-- An operator as it is usually written. -/
def ofOperator (kind : Token.Kind) : Token := ⟨kind, kind.spelling⟩

/-- Whether the token is an operator. -/
def isOperator (token : Token) : Bool := token.kind.isOperator

end Token

/-- White space that ends a word of a line; the backspace counts as such. -/
def isLineSpace (c : Char) : Bool :=
  c == ' ' || c == '\t' || c == '\n' || c == '\x0c' || c == '\r' || c == '\x0b' || c == '\x08'

/-- Parentheses separate words just as white space does. -/
def isParenthesis (c : Char) : Bool := c == '(' || c == ')'

/-- A character that ends a word outside quotes. -/
def isSeparator (c : Char) : Bool := isLineSpace c || isParenthesis c

end PipedShell
