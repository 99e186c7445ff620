import PipedShell.Text.Blank
import PipedShell.Text.Lines

/-!
# Reading text by lines and words

A source is a text that is read bit by bit: a line, a word, or all of the rest.  Reading a word
leaves the rest of its line pending, so that a line read next is the remainder of that line and
not the line after it.

* `Source` is what has not been read: the pending rest of a line and the lines after it.
* `Reading` names the three ways to read, and `Source.read` reads.
* `Source.remaining` is everything that is still to come.
-/

namespace PipedShell

/-- A text that is read from its front. -/
structure Source where
  /-- The lines after the current one. -/
  unread : Text
  /-- The rest of the line that a word was last cut from. -/
  pending : Text := []
  deriving DecidableEq, Repr

/-- The ways to read. -/
inductive Reading where
  /-- The next line, without its line feed. -/
  | line
  /-- The next word. -/
  | word
  /-- Everything that is left. -/
  | all
  deriving DecidableEq, Repr

namespace Source

/-- A source that nothing was read from. -/
def ofText (text : Text) : Source := { unread := text }

/-- Everything still to come. -/
def remaining (source : Source) : Text := source.pending ++ source.unread

/-- Forgets the rest of the current line. -/
def reset (source : Source) : Source := { source with pending := [] }

/-- Takes the rest of the current line or else the next line, with its line feed; empty at the
end. -/
def fetch (source : Source) : Text × Source :=
  if source.pending.isEmpty then
    let (line, rest) := source.unread.cutLine
    (line, { source with unread := rest })
  else (source.pending, source.reset)

/-- Reads a line, `none` at the end. -/
def readLine (source : Source) : Option Text × Source :=
  let (line, rest) := source.fetch
  (if line.isEmpty then none else some line.chomp, rest)

/-- Reads a word, passing over blank lines, `none` at the end. -/
def readWord (source : Source) : Option Text × Source :=
  match source.pending.firstWord with
  | some (word, rest) => (some word, { source with pending := rest })
  | none =>
    let (line, rest) := source.unread.trimLeft.cutLine
    match line.firstWord with
    | some (word, pending) => (some word, ⟨rest, pending⟩)
    | none => (none, ⟨rest, []⟩)

/-- Reads everything that is left. -/
def readAll (source : Source) : Text × Source := (source.remaining, ofText [])

/-- Reads in the given way; `none` stands for the end of the text. -/
def read (how : Reading) (source : Source) : Option Text × Source :=
  match how with
  | .line => source.readLine
  | .word => source.readWord
  | .all => (some source.readAll.1, source.readAll.2)

/-- Fetching loses nothing. -/
theorem fetch_append (source : Source) :
    source.fetch.1 ++ source.fetch.2.remaining = source.remaining := by
  unfold fetch remaining
  split
  · next h => simp_all [Text.cutLine_append]
  · simp [reset]

end Source

end PipedShell
