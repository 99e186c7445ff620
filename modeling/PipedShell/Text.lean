/-!
# Texts

A text is a list of characters.  Every limit, padding and order of this library counts code
points, so the list of code points is the value itself and not an encoding of it.

* `Text` is the type, with string literals accepted wherever a text is expected.
* `Text.ofInt` writes an integer in decimal digits.
* `Text.padRight`, `Text.join` and `Text.concat` lay texts out in tables and lines.
* `Text.le` is the order by code point that listings are sorted by.
-/

namespace PipedShell

/-- A text: its code points in order. -/
abbrev Text := List Char

/-- A string literal stands for the text of its characters. -/
instance : Coe String Text := ⟨String.toList⟩

namespace Text

/-- The decimal digits of an integer, with a leading minus sign when it is negative. -/
def ofInt (n : Int) : Text := (toString n).toList

/-- Fills a text up with spaces to at least `width` code points. -/
def padRight (width : Nat) (t : Text) : Text := t ++ List.replicate (width - t.length) ' '

/-- All parts in order with `separator` between neighbours. -/
def join (separator : Text) (parts : List Text) : Text := List.intercalate separator parts

/-- All parts in order with nothing between them. -/
def concat (parts : List Text) : Text := parts.flatMap id

/-- Order by code point: a text does not come after another one. -/
def le (a b : Text) : Bool := !decide (b < a)

/-- Texts in ascending order of code points, equal ones kept. -/
def sorted (ts : List Text) : List Text := ts.mergeSort le

/-- Some piece of `t` equals `piece`. -/
def hasPiece (t piece : Text) : Bool :=
  piece.isPrefixOf t || match t with
    | [] => false
    | _ :: rest => hasPiece rest piece

/-- The length of the longest of some texts, zero when there is none. -/
def widest (ts : List Text) : Nat := (ts.map List.length).foldl max 0

end Text

end PipedShell
