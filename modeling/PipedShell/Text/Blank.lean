import PipedShell.Text

/-!
# White space of texts

Input is cut into words at *blanks*, a set of 29 code points: the ASCII space and the control
characters from tab to carriage return, the four information separators, and the spaces and line
separators of other scripts.  (What separates the words of a command line is a smaller set of
its own, `isSeparator`.)

* `isBlank` decides the set.
* `Text.trim`, `Text.trimRight` and `Text.allBlank` drop or look for blanks at the ends.
* `Text.firstWord` cuts off the first word; the rest starts with no blank.
* `Text.words` is every word in order.
-/

namespace PipedShell

/-- The blanks, by code point. -/
def isBlank (c : Char) : Bool :=
  let n := c.toNat
  (0x09 ≤ n && n ≤ 0x0d) || (0x1c ≤ n && n ≤ 0x20) || n == 0x85 || n == 0xa0 ||
    n == 0x1680 || (0x2000 ≤ n && n ≤ 0x200a) || n == 0x2028 || n == 0x2029 ||
    n == 0x202f || n == 0x205f || n == 0x3000

namespace Text

/-- A text of blanks only, such as the empty one. -/
def allBlank (t : Text) : Bool := t.all isBlank

/-- Drops the leading blanks. -/
def trimLeft (t : Text) : Text := t.dropWhile isBlank

/-- Drops the trailing blanks. -/
def trimRight (t : Text) : Text := (t.reverse.dropWhile isBlank).reverse

/-- Drops the blanks at both ends. -/
def trim (t : Text) : Text := trimRight (trimLeft t)

/-- The characters before the first blank and those from it on. -/
def breakAtBlank (t : Text) : Text × Text :=
  (t.takeWhile fun c => !isBlank c, t.dropWhile fun c => !isBlank c)

/-- The first word and what follows it, without the blanks between them; `none` when there is
no word.  Blanks at the end of a non-empty rest stay. -/
def firstWord (t : Text) : Option (Text × Text) :=
  match trimLeft t with
  | [] => none
  | body =>
    let (word, rest) := breakAtBlank body
    some (word, trimLeft rest)

/-- Words from `t` on, `word` being the reversed beginning of an unfinished one. -/
def wordsFrom (word : Text) : Text → List Text
  | [] => if word.isEmpty then [] else [word.reverse]
  | c :: rest =>
    if isBlank c then
      if word.isEmpty then wordsFrom [] rest else word.reverse :: wordsFrom [] rest
    else wordsFrom (c :: word) rest

/-- Every maximal run of characters that are not blank, in order. -/
def words (t : Text) : List Text := wordsFrom [] t

/-- Breaking a text at its first blank loses nothing. -/
theorem breakAtBlank_append (t : Text) : (breakAtBlank t).1 ++ (breakAtBlank t).2 = t :=
  List.takeWhile_append_dropWhile

/-- A text that loses all its characters with the leading blanks is blank, and only such a one. -/
theorem trimLeft_eq_nil_iff (t : Text) : trimLeft t = [] ↔ t.allBlank = true := by
  induction t with
  | nil => simp [trimLeft, allBlank]
  | cons c rest ih =>
    simp only [trimLeft, allBlank] at ih
    by_cases h : isBlank c <;> simp [trimLeft, allBlank, h, ih]

/-- There is no first word exactly when all is blank. -/
theorem firstWord_eq_none_iff (t : Text) : firstWord t = none ↔ t.allBlank = true := by
  rw [← trimLeft_eq_nil_iff, firstWord]
  split <;> simp_all

end Text

end PipedShell
