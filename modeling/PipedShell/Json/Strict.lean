import PipedShell.Fault
import PipedShell.Json
import PipedShell.Number.Binary64

/-!
# Sending JSON

What is sent as JSON is held to the letter of the format: numbers have to be finite, and the text
has to have a form in UTF-8, which half of a surrogate pair has not.

* `Json.isFinite` checks the numbers of a value.
* `Json.sendingDefect?` tells why a value cannot be sent.
-/

namespace PipedShell.Json

mutual

/-- All numbers of a value are finite in double precision. -/
def isFinite : Json → Bool
  | real mantissa exponent => (Binary64.ofDecimal? mantissa.natAbs exponent).isSome
  | notFinite _ => false
  | arr items => areFinite items
  | obj members => membersAreFinite members
  | _ => true

/-- All numbers of some values are finite. -/
def areFinite : List Json → Bool
  | [] => true
  | item :: items => isFinite item && areFinite items

/-- All numbers of some members are finite. -/
def membersAreFinite : List (Text × Json) → Bool
  | [] => true
  | (_, value) :: members => isFinite value && membersAreFinite members

end

/-- Why a value cannot be sent: some number is not finite, or else where the first halves of
surrogate pairs stand. -/
def sendingDefect? (value : Json) : Option Defect :=
  if !value.isFinite then some .notFinite
  else
    let codes := value.codes
    match codes.dropWhile fun n => !isSurrogate n with
    | [] => none
    | half :: rest =>
      some (.loneHalf half (codes.length - (rest.length + 1))
        (1 + (rest.takeWhile isSurrogate).length))

end PipedShell.Json
