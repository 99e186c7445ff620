import PipedShell.Json.Decoder
import PipedShell.Number.Binary64

/-!
# Reading fields of structured input

Settings and request bodies come as JSON values and are read field by field into typed values.
The reading is lenient where the intent is plain: a number may be written as text, and a truth
value as a number or one of a few words.  Every field is read, so that all faults are reported
together.  The rules are those of the validation that the fields are declared with, which is not
part of the program; nothing that is proved about the service rests on them.

* `FieldFault` is why a value does not fit a field, with a code and a message.
* `FieldError` is a fault with the place of the field.
* `Field.text`, `Field.integer`, `Field.atLeast`, `Field.truth` and `Field.sized` are the readers.
-/

namespace PipedShell

/-- Why a value does not fit a field. -/
inductive FieldFault where
  /-- The field has to be given. -/
  | missing
  /-- A text is needed. -/
  | notText
  /-- The text has half of a surrogate pair. -/
  | notUnicode
  /-- The text has fewer characters than this. -/
  | tooShort (least : Nat)
  /-- The text has more characters than this. -/
  | tooLong (most : Nat)
  /-- An integer is needed. -/
  | notInteger
  /-- The text does not write an integer. -/
  | unreadableInteger
  /-- The integer is too long or too large to be read. -/
  | oversizedInteger
  /-- The number has a fractional part. -/
  | fractional
  /-- The number is not finite. -/
  | notFinite
  /-- The integer is below this. -/
  | below (least : Int)
  /-- A truth value is needed. -/
  | notTruth
  /-- The value does not say whether it is true or false. -/
  | unreadableTruth
  /-- An object with the fields of a request is needed. -/
  | notFields
  /-- An object is needed. -/
  | notObject
  /-- The text is not JSON. -/
  | notJson
  deriving DecidableEq, Repr

namespace FieldFault

/-- Counted characters. -/
def characters (n : Nat) : Text := Text.ofInt n ++ (if n == 1 then " character" else " characters")

/-- The code of a fault. -/
def code : FieldFault → Text
  | missing => "missing"
  | notText => "string_type"
  | notUnicode => "string_unicode"
  | tooShort _ => "string_too_short"
  | tooLong _ => "string_too_long"
  | notInteger => "int_type"
  | unreadableInteger => "int_parsing"
  | oversizedInteger => "int_parsing_size"
  | fractional => "int_from_float"
  | notFinite => "finite_number"
  | below _ => "greater_than_equal"
  | notTruth => "bool_type"
  | unreadableTruth => "bool_parsing"
  | notFields => "model_attributes_type"
  | notObject => "dict_type"
  | notJson => "json_invalid"

/-- The message of a fault. -/
def message : FieldFault → Text
  | missing => "Field required"
  | notText => "Input should be a valid string"
  | notUnicode => "Input should be a valid string, unable to parse raw data as a unicode string"
  | tooShort least => "String should have at least " ++ characters least
  | tooLong most => "String should have at most " ++ characters most
  | notInteger => "Input should be a valid integer"
  | unreadableInteger => "Input should be a valid integer, unable to parse string as an integer"
  | oversizedInteger => "Unable to parse input string as an integer, exceeded maximum size"
  | fractional => "Input should be a valid integer, got a number with a fractional part"
  | notFinite => "Input should be a finite number"
  | below least => "Input should be greater than or equal to " ++ Text.ofInt least
  | notTruth => "Input should be a valid boolean"
  | unreadableTruth => "Input should be a valid boolean, unable to interpret input"
  | notFields => "Input should be a valid dictionary or object to extract fields from"
  | notObject => "Input should be a valid dictionary"
  | notJson => "JSON decode error"

/-- What a fault says besides, for programs to read. -/
def context : FieldFault → List (Text × Json)
  | tooShort least => [("min_length", .int least)]
  | tooLong most => [("max_length", .int most)]
  | below least => [("ge", .int least)]
  | _ => []

end FieldFault

/-- A step on the way to a field. -/
inductive PlaceStep where
  /-- The field of this name. -/
  | name (name : Text)
  /-- The character with this many characters in front of it. -/
  | position (position : Nat)
  deriving DecidableEq, Repr

/-- A fault and the way to the field that has it. -/
structure FieldError where
  place : List PlaceStep
  fault : FieldFault
  deriving DecidableEq, Repr

namespace Field

/-- A value that has to be a text. -/
def text : Json → Except FieldFault Text
  | .str value => .ok value
  | .brokenStr _ => .error .notUnicode
  | _ => .error .notText

/-- A text of at least `least` and at most `most` characters. -/
def sized (least most : Nat) (value : Text) : Except FieldFault Text :=
  if value.length < least then .error (.tooShort least)
  else if value.length > most then .error (.tooLong most)
  else .ok value

/-- A zero or an underscore in front of a number. -/
def isFiller (c : Char) : Bool := c == '0' || c == '_'

/-- An integer without needless zeros in front, underscores between the zeros being dropped with
them; `none` for a text that does not start with a digit.  At least one character stays in front
of a point or the end, and a minus sign can come after the zeros. -/
def withoutLeadingZeros : Text → Option Text
  | [] => none
  | c :: rest =>
    if c == '0' then
      let filler := c :: rest.takeWhile isFiller
      match rest.dropWhile isFiller with
      | [] => some [filler.getLastD c]
      | d :: digits =>
        if d == '.' then some (filler.getLastD c :: d :: digits)
        else if Json.isJsonDigit d || d == '-' then some (d :: digits)
        else none
    else if Json.isJsonDigit c then some (c :: rest)
    else none

/-- A number without a fraction of zeros only; a point with nothing behind it stays. -/
def withoutZeroFraction (t : Text) : Text :=
  match t.dropWhile (· != '.') with
  | _ :: fraction =>
    if !fraction.isEmpty && fraction.all (· == '0') then t.takeWhile (· != '.') else t
  | [] => t

/-- A number without the underscores that group its digits; one that stands at an end or beside
another one stays. -/
def withoutGrouping (t : Text) : Text :=
  if t.head? == some '_' || t.getLast? == some '_' || t.hasPiece ['_', '_'] then t
  else t.filter (· != '_')

/-- The number that a text writes, without the ornaments that are allowed: blanks around it, a plus
sign, needless zeros after the sign, and underscores between digits. -/
def bareNumber? (t : Text) : Option Text :=
  let (negative, body) := t.trimNumber.splitSign
  if body.head? == some '-' then none
  else (withoutLeadingZeros body).map fun rest =>
    let number := withoutGrouping (withoutZeroFraction rest)
    if negative then '-' :: number else number

/-- The value of an integer in ASCII digits without needless zeros, with a minus sign or none, and
with no more digits than are read. -/
def plainInteger? (number : Text) : Option Int :=
  let (negative, digits) := number.splitSign
  let value : Int := decimalValue digits
  if digits.isEmpty || !digits.all Json.isJsonDigit then none
  else if digits.head? == some '0' && digits.length > 1 then none
  else if digits.length > maxIntegerDigits then none
  else some (if negative then -value else value)

/-- The digits that a text starts with, but for a minus sign; none when they start with a zero. -/
def leadingDigits (t : Text) : Text :=
  let body := match t with
    | '-' :: rest => rest
    | _ => t
  if body.head? == some '0' then [] else body.takeWhile Json.isJsonDigit

/-- The integer that a text writes.  It is told to be too long only if the text starts with too
many digits; with ornaments in front or among them the text just writes no integer. -/
def integerOfText (t : Text) : Except FieldFault Int :=
  if (leadingDigits t).length > maxIntegerDigits then .error .oversizedInteger
  else match (bareNumber? t).bind plainInteger? with
    | some value => .ok value
    | none => .error .unreadableInteger

/-- Integers of 64 bits with a sign lie strictly below this and above its negative. -/
def wordBound : Nat := Nat.pow 2 63

/-- The integer that a number with a fraction or an exponent stands for. -/
def wholeReal (mantissa exponent : Int) : Except FieldFault Int :=
  match Binary64.ofDecimal? mantissa.natAbs exponent with
  | none => .error .notFinite
  | some x =>
    if x.isWhole then .ok (if mantissa < 0 then -(x.floor : Int) else x.floor)
    else .error .fractional

/-- A value that has to be an integer: a number without fractional part, a truth value, or a text
that writes one. -/
def integer : Json → Except FieldFault Int
  | .int value => .ok value
  | .bool value => .ok (if value then 1 else 0)
  | .real mantissa exponent =>
    match wholeReal mantissa exponent with
    | .error fault => .error fault
    | .ok value => if value.natAbs < wordBound then .ok value else .error .oversizedInteger
  | .notFinite _ => .error .notFinite
  | .str t => integerOfText t
  | .brokenStr _ => .error .unreadableInteger
  | _ => .error .notInteger

/-- An integer that has to be at least `least`. -/
def atLeast (least : Int) (value : Json) : Except FieldFault Int :=
  match integer value with
  | .ok n => if n < least then .error (.below least) else .ok n
  | .error fault => .error fault

/-- The words for true, in small letters. -/
def trueWords : List Text := ["1", "t", "true", "y", "yes", "on"]

/-- The words for false, in small letters. -/
def falseWords : List Text := ["0", "f", "false", "n", "no", "off"]

/-- A truth value that a number stands for. -/
def truthOfInteger (n : Int) : Except FieldFault Bool :=
  if n == 0 then .ok false else if n == 1 then .ok true else .error .unreadableTruth

/-- A value that has to be true or false: such a value, one of the numbers 0 and 1, or a word in
any mixture of capital and small ASCII letters. -/
def truth : Json → Except FieldFault Bool
  | .bool value => .ok value
  | .int n => truthOfInteger n
  | .real mantissa exponent =>
    match wholeReal mantissa exponent with
    | .ok n => truthOfInteger n
    | .error _ => .error .notTruth
  | .str t =>
    let word := t.map Char.toLower
    if trueWords.elem word then .ok true
    else if falseWords.elem word then .ok false
    else .error .unreadableTruth
  | _ => .error .notTruth

end Field

end PipedShell
