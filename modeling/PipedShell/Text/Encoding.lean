import PipedShell.Text.Surrogate

/-!
# The encoding of a text that was sent

A text that begins with two ASCII characters shows in its first bytes how it was encoded.  With
units of two or four bytes some of these bytes are NUL, and their places tell how many bytes a unit
has and which of them comes first.

* `Encoding.ofBytes` tells the encoding, `Encoding.codes?` the code points that bytes stand for.
* `Received` is a text that was sent; it may hold halves of surrogate pairs.
* `Received.read?` reads anew what was taken for UTF-8.
-/

namespace PipedShell

/-- The order of the bytes of a unit. -/
inductive ByteOrder where
  | highFirst
  | lowFirst
  deriving DecidableEq, Repr

/-- The number that the bytes of a unit make up. -/
def ByteOrder.number (order : ByteOrder) (bytes : List Nat) : Nat :=
  let highFirst := match order with
    | .highFirst => bytes
    | .lowFirst => bytes.reverse
  highFirst.foldl (fun n byte => 256 * n + byte) 0

/-- How a text is encoded. -/
inductive Encoding where
  | utf8
  /-- In units of two bytes. -/
  | utf16 (order : ByteOrder)
  /-- In units of four bytes. -/
  | utf32 (order : ByteOrder)
  deriving DecidableEq, Repr

namespace Encoding

/-- The bytes of a text in UTF-8. -/
def utf8Bytes (text : Text) : List Nat :=
  text.flatMap fun c => (String.utf8EncodeChar c).map (·.toNat)

/-- The encoding that the NUL bytes among the first four bytes tell; fewer bytes are told from
only if there are two. -/
def ofBytes : List Nat → Encoding
  | 0 :: 0 :: _ :: _ :: _ => .utf32 .highFirst
  | 0 :: _ :: _ :: _ :: _ => .utf16 .highFirst
  | _ :: 0 :: 0 :: 0 :: _ => .utf32 .lowFirst
  | _ :: 0 :: _ :: _ :: _ => .utf16 .lowFirst
  | [0, _] => .utf16 .highFirst
  | [_, 0] => .utf16 .lowFirst
  | _ => .utf8

/-- Units of two bytes, `done` being those before them, reversed; `none` when a byte is left. -/
def pairs? (order : ByteOrder) (done : List Nat) : List Nat → Option (List Nat)
  | [] => some done.reverse
  | a :: b :: rest => pairs? order (order.number [a, b] :: done) rest
  | [_] => none

/-- Units of four bytes, `done` being those before them, reversed; `none` when bytes are left. -/
def quadruples? (order : ByteOrder) (done : List Nat) : List Nat → Option (List Nat)
  | [] => some done.reverse
  | a :: b :: c :: d :: rest => quadruples? order (order.number [a, b, c, d] :: done) rest
  | _ => none

/-- The last code point. -/
def maxCode : Nat := 0x10ffff

/-- The code points that bytes in an encoding of wide units stand for; `none` when they stand for
none. -/
def wideCodes? (bytes : List Nat) : Encoding → Option (List Nat)
  | .utf8 => none
  | .utf16 order => (pairs? order [] bytes).map (joinPairs [])
  | .utf32 order => (quadruples? order [] bytes).filter fun codes => codes.all (· ≤ maxCode)

end Encoding

/-- A text that was sent.  Halves of surrogate pairs, which a text cannot hold, are in it as
characters that it does not hold otherwise. -/
structure Received where
  text : Text
  /-- The characters that stand for halves, and for which. -/
  halves : List (Char × Nat) := []
  deriving DecidableEq, Repr

namespace Received

/-- The first character of those that can stand for halves; they are for private use. -/
def firstStandIn : Nat := 0xf0000

/-- A character for each of some halves, none of which is among the given code points. -/
def standIns (codes halves : List Nat) : List (Char × Nat) :=
  let taken := codes.filter (firstStandIn ≤ ·)
  let free := ((List.range (taken.length + halves.length)).map (firstStandIn + ·)).filter
    fun n => !taken.elem n
  (free.map Char.ofNat).zip halves

/-- A text by its code points. -/
def ofCodes (codes : List Nat) : Received :=
  let halves := standIns codes (codes.filter isSurrogate).eraseDups
  let char (n : Nat) : Char :=
    if isSurrogate n then ((halves.find? (·.2 == n)).map (·.1)).getD '\uFFFD' else Char.ofNat n
  ⟨codes.map char, halves⟩

/-- The code point that a character stands for. -/
def code (halves : List (Char × Nat)) (c : Char) : Nat := (halves.lookup c).getD c.toNat

/-- A text without the byte order mark in front. -/
def withoutMark : Text → Text
  | '\uFEFF' :: rest => rest
  | text => text

/-- Reads a text from its bytes, which are given as what they stand for in UTF-8; `none` when they
stand for nothing in the encoding that they show. -/
def read? (body : Text) : Option Received :=
  let bytes := Encoding.utf8Bytes body
  match Encoding.ofBytes bytes with
  | .utf8 => some { text := withoutMark body }
  | wide => (wide.wideCodes? bytes).map ofCodes

end Received

end PipedShell
