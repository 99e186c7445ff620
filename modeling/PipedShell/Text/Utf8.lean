import PipedShell.Text

/-!
# Bytes of UTF-8

A limit may count bytes of UTF-8, and then it cuts a text between any two bytes, be it in the middle
of a character.  What the bytes in front of the cut stand for is read leniently: bytes that are not
all the bytes of a character are passed over, one at a time.

* `Utf8.encode` is the bytes of a text.
* `Utf8.firstChar?` is the character that bytes begin with.
* `Utf8.decodeLenient` is the text that bytes stand for.
* `Text.clipped` is what the first bytes of a text stand for.
-/

namespace PipedShell

namespace Utf8

/-- The bytes of a text. -/
def encode (t : Text) : List UInt8 := t.flatMap String.utf8EncodeChar

/-- The most bytes that a character has. -/
def maxCharSize : Nat := 4

/-- The character that bytes begin with; `none` where they do not begin with all bytes of one. -/
def firstChar? (bytes : List UInt8) : Option Char :=
  (bytes.take maxCharSize).toByteArray.utf8DecodeChar? 0

/-- What bytes stand for, the first `covered` of them being those of a character before. -/
def decodeFrom : (covered : Nat) → List UInt8 → Text
  | _, [] => []
  | covered + 1, _ :: bytes => decodeFrom covered bytes
  | 0, byte :: bytes =>
    match firstChar? (byte :: bytes) with
    | some c => c :: decodeFrom (c.utf8Size - 1) bytes
    | none => decodeFrom 0 bytes

/-- The text that bytes stand for, without the bytes that belong to no character. -/
def decodeLenient (bytes : List UInt8) : Text := decodeFrom 0 bytes

/-- Bytes that are covered do not count. -/
theorem decodeFrom_eq_drop (covered : Nat) (bytes : List UInt8) :
    decodeFrom covered bytes = decodeLenient (bytes.drop covered) := by
  induction bytes generalizing covered with
  | nil => simp [decodeFrom, decodeLenient]
  | cons byte bytes ih =>
    cases covered with
    | zero => rfl
    | succ covered => simpa [decodeFrom] using ih covered

end Utf8

/-- What the first bytes of a text stand for. -/
def Text.clipped (bytes : Nat) (t : Text) : Text :=
  Utf8.decodeLenient ((Utf8.encode t).take bytes)

end PipedShell
