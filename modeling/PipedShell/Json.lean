import PipedShell.Text.Quoted
import PipedShell.Text.Surrogate

/-!
# JSON values

* `Json` is the type.  An object keeps its members in the order in which they were written; of
  members of one name the last one counts.
* A number with a fraction or an exponent is kept apart from an integer, as a mantissa and a power
  of ten, because readers of settings tell them apart.
* `Json.ofCodes` makes a string of code points, `Json.member?` looks a member up.
* `Json.encode` writes a value as text; `Json.codes` is the code points it is written with.
-/

namespace PipedShell

/-- The numbers that are no reals, which lenient readers accept. -/
inductive NotFinite where
  | notANumber
  | infinity
  | minusInfinity
  deriving DecidableEq, Repr

/-- A JSON value. -/
inductive Json where
  | null
  | bool (value : Bool)
  /-- A number written without fraction and exponent. -/
  | int (value : Int)
  /-- The number `mantissa` times ten to the power of `exponent`. -/
  | real (mantissa : Int) (exponent : Int)
  | notFinite (value : NotFinite)
  | str (text : Text)
  /-- A string with half of a surrogate pair among its code points, which is no text. -/
  | brokenStr (codes : List Nat)
  | arr (items : List Json)
  | obj (members : List (Text × Json))

namespace Json

/-- A string of the characters of a literal. -/
def ofText (text : Text) : Json := str text

/-- A string, or `null` for none. -/
def ofText? : Option Text → Json
  | some text => str text
  | none => null

/-- An array of strings. -/
def ofTexts (texts : List Text) : Json := arr (texts.map str)

/-- The member of a name, the last one when there are several. -/
def member? (name : Text) : Json → Option Json
  | obj members => (members.reverse.find? fun member => member.1 == name).map (·.2)
  | _ => none

/-- A string by its code points. -/
def ofCodes (codes : List Nat) : Json :=
  if codes.any isSurrogate then brokenStr codes else str (codes.map Char.ofNat)

/-- The letter after the backslash by which a character is written between the quotes of a
string, for those that have one. -/
def escapeLetter? (n : Nat) : Option Char :=
  [(0x22, '"'), (0x5c, '\\'), (0x08, 'b'), (0x09, 't'), (0x0a, 'n'), (0x0c, 'f'),
    (0x0d, 'r')].lookup n

/-- The code points of a text. -/
def textCodes (text : Text) : List Nat := text.map Char.toNat

/-- A code point between the quotes of a string. -/
def escapedCode (n : Nat) : List Nat :=
  match escapeLetter? n with
  | some letter => textCodes ['\\', letter]
  | none => if n < 0x20 then textCodes ("\\u" ++ Text.hexadecimal 4 n) else [n]

/-- A string with its quotes. -/
def stringCodes (codes : List Nat) : List Nat :=
  textCodes ['"'] ++ codes.flatMap escapedCode ++ textCodes ['"']

/-- The spelling of a number that is no real. -/
def spelling : NotFinite → Text
  | .notANumber => "NaN"
  | .infinity => "Infinity"
  | .minusInfinity => "-Infinity"

mutual

/-- The code points that a value is written with, without blanks. -/
def codes : Json → List Nat
  | null => textCodes "null"
  | bool true => textCodes "true"
  | bool false => textCodes "false"
  | int value => textCodes (Text.ofInt value)
  | real mantissa exponent => textCodes (Text.ofInt mantissa ++ "e" ++ Text.ofInt exponent)
  | notFinite value => textCodes (spelling value)
  | str text => stringCodes (textCodes text)
  | brokenStr codes => stringCodes codes
  | arr items => textCodes "[" ++ itemCodes items ++ textCodes "]"
  | obj members => textCodes "\x7b" ++ memberCodes members ++ textCodes "\x7d"

/-- The items of an array with commas between them. -/
def itemCodes : List Json → List Nat
  | [] => []
  | [item] => codes item
  | item :: items => codes item ++ textCodes "," ++ itemCodes items

/-- The members of an object with commas between them. -/
def memberCodes : List (Text × Json) → List Nat
  | [] => []
  | [(name, value)] => stringCodes (textCodes name) ++ textCodes ":" ++ codes value
  | (name, value) :: members =>
    stringCodes (textCodes name) ++ textCodes ":" ++ codes value ++ textCodes "," ++
      memberCodes members

end

/-- A value as text.  Half of a surrogate pair is written by its number. -/
def encode (value : Json) : Text :=
  value.codes.flatMap fun n =>
    if isSurrogate n then "\\u" ++ Text.hexadecimal 4 n else [Char.ofNat n]

end Json

end PipedShell
