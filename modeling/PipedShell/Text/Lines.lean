import PipedShell.Text

/-!
# Lines of texts

A line ends at a line feed and nowhere else.  A non-empty piece after the last line feed is a line
too, so the lines of a text and the lines written back differ at most in one final line feed.

* `Text.cutLine` cuts off the first line with its line feed.
* `Text.chomp` drops the line feed at the end of a line.
* `Text.lines` is every line, without line feeds; `Text.unlines` ends each with one.
-/

namespace PipedShell.Text

/-- The first line with its line feed, and what follows it. -/
def cutLine (t : Text) : Text × Text :=
  match t.dropWhile (· != '\n') with
  | [] => (t, [])
  | feed :: rest => (t.takeWhile (· != '\n') ++ [feed], rest)

/-- A line without the line feed at its end. -/
def chomp (line : Text) : Text :=
  if line.getLast? == some '\n' then line.dropLast else line

/-- The lines from `t` on, `line` being the reversed beginning of an unfinished one. -/
def linesFrom (line : Text) : Text → List Text
  | [] => if line.isEmpty then [] else [line.reverse]
  | c :: rest => if c == '\n' then line.reverse :: linesFrom [] rest else linesFrom (c :: line) rest

/-- The lines of a text without their line feeds. -/
def lines (t : Text) : List Text := linesFrom [] t

/-- Every line followed by a line feed. -/
def unlines (ls : List Text) : Text := ls.flatMap (· ++ ['\n'])

/-- A text with a line feed added where it is not empty and lacks one at its end. -/
def terminated (t : Text) : Text :=
  if t.isEmpty || t.getLast? == some '\n' then t else t ++ ['\n']

/-- Cutting off a line loses nothing. -/
theorem cutLine_append (t : Text) : (cutLine t).1 ++ (cutLine t).2 = t := by
  have h : t.takeWhile (· != '\n') ++ t.dropWhile (· != '\n') = t :=
    List.takeWhile_append_dropWhile
  unfold cutLine
  split
  · simp
  · next feed rest heq => simp [heq] at h; simpa using h

/-- Only the empty text has an empty first line. -/
theorem cutLine_fst_eq_nil_iff (t : Text) : (cutLine t).1 = [] ↔ t = [] := by
  unfold cutLine
  split
  · simp
  · next feed rest heq => cases t <;> simp_all

end PipedShell.Text
