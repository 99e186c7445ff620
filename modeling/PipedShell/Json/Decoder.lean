import PipedShell.Json
import PipedShell.Text.Encoding
import PipedShell.Text.Integer

/-!
# Reading JSON

The reader accepts the JSON grammar with three spellings more, `NaN`, `Infinity` and `-Infinity`,
and tells where a malformed text goes wrong, as the number of characters in front of the place.
Control characters have to be escaped in strings.

* `Json.decode` reads a text; some characters of it may stand for halves of surrogate pairs.
* `DecodeFault` is why a text is refused: it is malformed at a place, an integer has more digits
  than are read, or values are nested too deep.

The readers of parts pass on what they leave unread; the length of that is what a place is computed
from.  Each of them reads at least one character before it calls another one, so the number of
characters bounds the number of calls.
-/

namespace PipedShell

/-- Why a text is not read as a JSON value. -/
inductive DecodeFault where
  /-- The text is malformed where `rest` characters are left. -/
  | malformed (rest : Nat)
  /-- An integer has too many digits. -/
  | integerTooLong
  /-- Arrays and objects are nested too deep. -/
  | nestedTooDeep
  deriving DecidableEq, Repr

namespace Json

/-- A value and the text after it. -/
abbrev Parsed (α : Type) := Except DecodeFault (α × Text)

/-- Malformed at the start of the given text. -/
def malformedAt {α : Type} (rest : Text) : Except DecodeFault α := .error (.malformed rest.length)

/-- Malformed `n` characters before the start of the given text. -/
def malformedBefore {α : Type} (n : Nat) (rest : Text) : Except DecodeFault α :=
  .error (.malformed (rest.length + n))

/-- The white space between the parts of a JSON text. -/
def isJsonSpace (c : Char) : Bool := c == ' ' || c == '\t' || c == '\n' || c == '\r'

/-- A text without its leading white space. -/
def skipSpace (t : Text) : Text := t.dropWhile isJsonSpace

/-- The value of a hexadecimal digit. -/
def hexDigit? (c : Char) : Option Nat :=
  if '0' ≤ c && c ≤ '9' then some (c.toNat - 48)
  else if 'a' ≤ c && c ≤ 'f' then some (c.toNat - 87)
  else if 'A' ≤ c && c ≤ 'F' then some (c.toNat - 55)
  else none

/-- The number that four hexadecimal digits write, and what follows them. -/
def hexFour? : Text → Option (Nat × Text)
  | a :: b :: c :: d :: rest =>
    match hexDigit? a, hexDigit? b, hexDigit? c, hexDigit? d with
    | some a, some b, some c, some d => some (4096 * a + 256 * b + 16 * c + d, rest)
    | _, _, _, _ => none
  | _ => none

/-- The character that a letter after a backslash stands for. -/
def simpleEscape? (c : Char) : Option Char :=
  if c == '"' || c == '\\' || c == '/' then some c
  else if c == 'b' then some '\x08'
  else if c == 'f' then some '\x0c'
  else if c == 'n' then some '\n'
  else if c == 'r' then some '\r'
  else if c == 't' then some '\t'
  else none

/-- Reads after a backslash and `u`: a code point, a surrogate pair being one, and what follows.
Something has to follow, because the string has still to be closed. -/
def readEscapedCode (text : Text) : Parsed Nat :=
  match hexFour? text with
  | none => malformedBefore 1 text
  | some (_, []) => malformedBefore 1 text
  | some (high, rest) =>
    match rest with
    | '\\' :: 'u' :: digits =>
      if isHighSurrogate high && digits.length > 4 then
        match hexFour? digits with
        | none => malformedBefore 1 digits
        | some (low, after) =>
          if isLowSurrogate low then .ok (joinSurrogates high low, after) else .ok (high, rest)
      else .ok (high, rest)
    | _ => .ok (high, rest)

/-- Reads a string after its opening quote.  `done` is the code points that were read, reversed;
`start` is the text from the opening quote on. -/
def readString (halves : List (Char × Nat)) (start : Text) :
    Nat → (done : List Nat) → Text → Parsed Json
  | 0, _, _ => malformedAt start
  | _, _, [] => malformedAt start
  | fuel + 1, done, c :: rest =>
    if c == '"' then .ok (ofCodes done.reverse, rest)
    else if c == '\\' then
      match rest with
      | [] => malformedAt start
      | 'u' :: digits =>
        match readEscapedCode digits with
        | .error fault => .error fault
        | .ok (n, after) => readString halves start fuel (n :: done) after
      | letter :: after =>
        match simpleEscape? letter with
        | some escaped => readString halves start fuel (escaped.toNat :: done) after
        | none => malformedAt (c :: rest)
    else if c.toNat < 0x20 then malformedAt (c :: rest)
    else readString halves start fuel (Received.code halves c :: done) rest

/-- An ASCII digit. -/
def isJsonDigit (c : Char) : Bool := '0' ≤ c && c ≤ '9'

/-- The fraction after an integer: its digits and what follows them. -/
def readFraction : Text → Option (Text × Text)
  | '.' :: d :: rest =>
    if isJsonDigit d then some (d :: rest.takeWhile isJsonDigit, rest.dropWhile isJsonDigit)
    else none
  | _ => none

/-- The exponent after a number: its value and what follows it. -/
def readExponent : Text → Option (Int × Text)
  | e :: rest =>
    if e == 'e' || e == 'E' then
      let (negative, body) := Text.splitSign rest
      let digits := body.takeWhile isJsonDigit
      if digits.isEmpty then none
      else
        let value : Int := decimalValue digits
        some (if negative then -value else value, body.dropWhile isJsonDigit)
    else none
  | [] => none

/-- The digits of an integer without needless zeros in front, and what follows them. -/
def readDigits : Text → Option (Text × Text)
  | '0' :: rest => some (['0'], rest)
  | d :: rest =>
    if isJsonDigit d then some (d :: rest.takeWhile isJsonDigit, rest.dropWhile isJsonDigit)
    else none
  | [] => none

/-- Reads a number; `none` when none starts here. -/
def readNumber (text : Text) : Option (Parsed Json) :=
  let (negative, body) := match text with
    | '-' :: rest => (true, rest)
    | _ => (false, text)
  let signed (n : Nat) : Int := if negative then -(n : Int) else n
  match readDigits body with
  | none => none
  | some (digits, afterDigits) =>
    let (fraction, afterFraction) := (readFraction afterDigits).getD ([], afterDigits)
    let exponent? := readExponent afterFraction
    if fraction.isEmpty && exponent?.isNone then
      if digits.length > maxIntegerDigits then some (.error .integerTooLong)
      else some (.ok (int (signed (decimalValue digits)), afterDigits))
    else
      let (exponent, after) := exponent?.getD (0, afterFraction)
      some (.ok (real (signed (decimalValue (digits ++ fraction))) (exponent - fraction.length),
        after))

/-- The values that are spelled as words. -/
def keywords : List (Text × Json) :=
  [("null", null), ("true", bool true), ("false", bool false), ("NaN", notFinite .notANumber),
    ("Infinity", notFinite .infinity), ("-Infinity", notFinite .minusInfinity)]

/-- Reads a value spelled as a word; `none` when none starts here. -/
def readKeyword (text : Text) : Option (Json × Text) :=
  (keywords.find? fun word => word.1.isPrefixOf text).map fun word =>
    (word.2, text.drop word.1.length)

/-- The deepest nesting of arrays and objects that is read.  What a reader takes depends on how much
of its stack is in use already; this is a round figure for one that a service calls. -/
def maxNesting : Nat := 990

/-- The name of a member; the half of a surrogate pair in it is replaced. -/
def memberName : Json → Text
  | str text => text
  | _ => ['\uFFFD']

mutual

/-- Reads a value.  `halves` are the characters that stand for halves of surrogate pairs, `depth`
is how deep arrays and objects may still be nested. -/
def readValue (halves : List (Char × Nat)) (fuel depth : Nat) (text : Text) : Parsed Json :=
  match fuel with
  | 0 => malformedAt text
  | fuel + 1 =>
    match text with
    | '"' :: rest => readString halves text text.length [] rest
    | '\x7b' :: rest =>
      match depth with
      | 0 => .error .nestedTooDeep
      | depth + 1 =>
        match skipSpace rest with
        | '\x7d' :: after => .ok (obj [], after)
        | members => readMembers halves fuel depth [] members
    | '[' :: rest =>
      match depth with
      | 0 => .error .nestedTooDeep
      | depth + 1 =>
        match skipSpace rest with
        | ']' :: after => .ok (arr [], after)
        | items => readItems halves fuel depth [] items
    | _ =>
      match readKeyword text with
      | some (value, after) => .ok (value, after)
      | none =>
        match readNumber text with
        | some number => number
        | none => malformedAt text

/-- Reads the items of an array up to its closing bracket, `done` being those already read,
reversed. -/
def readItems (halves : List (Char × Nat)) (fuel depth : Nat) (done : List Json) (text : Text) :
    Parsed Json :=
  match fuel with
  | 0 => malformedAt text
  | fuel + 1 =>
    match readValue halves fuel depth text with
    | .error fault => .error fault
    | .ok (item, rest) =>
      match skipSpace rest with
      | ']' :: after => .ok (arr (item :: done).reverse, after)
      | ',' :: after => readItems halves fuel depth (item :: done) (skipSpace after)
      | other => malformedAt other

/-- Reads the members of an object up to its closing brace, `done` being those already read,
reversed. -/
def readMembers (halves : List (Char × Nat)) (fuel depth : Nat) (done : List (Text × Json))
    (text : Text) : Parsed Json :=
  match fuel with
  | 0 => malformedAt text
  | fuel + 1 =>
    match text with
    | '"' :: rest =>
      match readString halves text text.length [] rest with
      | .error fault => .error fault
      | .ok (name, afterName) =>
        match skipSpace afterName with
        | ':' :: afterColon =>
          match readValue halves fuel depth (skipSpace afterColon) with
          | .error fault => .error fault
          | .ok (value, afterValue) =>
            let members := (memberName name, value) :: done
            match skipSpace afterValue with
            | '\x7d' :: after => .ok (obj members.reverse, after)
            | ',' :: after => readMembers halves fuel depth members (skipSpace after)
            | other => malformedAt other
        | other => malformedAt other
    | _ => malformedAt text

end

/-- Reads a JSON text, which is one value with white space around it.  `halves` are the characters
of the text that stand for halves of surrogate pairs. -/
def decode (text : Text) (halves : List (Char × Nat) := []) : Except DecodeFault Json :=
  match readValue halves (text.length + 1) maxNesting (skipSpace text) with
  | .error fault => .error fault
  | .ok (value, rest) =>
    match skipSpace rest with
    | [] => .ok value
    | other => malformedAt other

end Json

end PipedShell
