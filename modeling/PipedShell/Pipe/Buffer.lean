import PipedShell.Fault
import PipedShell.Pipe.Source

/-!
# Buffers between stages

A buffer keeps everything written to it and is read from its own position, so writing and reading
do not disturb each other.  A buffer either belongs to the shell or is lent to it; a lent buffer is
emptied but never closed.

* `Buffer` is the stored text, the position of the reader, and the rest of a line it holds back.
* `Buffer.write` appends, `Buffer.read` reads on, `Buffer.clear` forgets both text and position.
* `Buffer.source` is the buffer as the reader sees it.

Using a closed buffer is a defect.  What the reader holds back can still be read then, because no
stored text is needed for it.
-/

namespace PipedShell

/-- A text that is appended to at its end and read from a position of its own.  What is lent to the
shell as a buffer is a text stream in memory that translates no line ends: it holds the characters
that were written, and they are read back as they are. -/
structure Buffer where
  /-- The buffer belongs to the shell, which may close it. -/
  owned : Bool := true
  closed : Bool := false
  /-- Everything written since the last clear. -/
  stored : Text := []
  /-- How much of the stored text has been fetched by the reader. -/
  position : Nat := 0
  /-- The rest of the line that a word was last cut from. -/
  pending : Text := []
  deriving DecidableEq, Repr

namespace Buffer

/-- A buffer of the shell's own, empty. -/
def fresh : Buffer := {}

/-- A buffer that is lent to the shell with some text in it. -/
def lent (text : Text) : Buffer := { owned := false, stored := text }

/-- A lent buffer for a text, one of the shell's own for none. -/
def ofLoan : Option Text → Buffer
  | none => fresh
  | some text => lent text

/-- The stored text from the reader's position on. -/
def unread (buffer : Buffer) : Text := buffer.stored.drop buffer.position

/-- What the reader sees. -/
def source (buffer : Buffer) : Source := ⟨buffer.unread, buffer.pending⟩

/-- The buffer after its reader has moved on to `source`, which is a later part of the text. -/
def moveTo (buffer : Buffer) (source : Source) : Buffer :=
  { buffer with
    position := buffer.stored.length - source.unread.length
    pending := source.pending }

/-- Does something with an open buffer. -/
def whenOpen {α : Type} (buffer : Buffer) (act : Buffer → α × Buffer) : Attempt Buffer α :=
  if buffer.closed then (.error (.defect .closedStream), buffer)
  else ((.ok (act buffer).1), (act buffer).2)

/-- Appends a text and tells how many characters it has. -/
def write (text : Text) (buffer : Buffer) : Attempt Buffer Nat :=
  buffer.whenOpen fun b => (text.length, { b with stored := b.stored ++ text })

/-- Takes the next line of the stored text with its line feed, past what is held back. -/
def fetchLine (buffer : Buffer) : Attempt Buffer Text :=
  buffer.whenOpen fun b =>
    let (line, _) := b.unread.cutLine
    (line, { b with position := b.position + line.length })

/-- Everything stored. -/
def contents (buffer : Buffer) : Attempt Buffer Text := buffer.whenOpen fun b => (b.stored, b)

/-- Brings out what was written, which changes nothing: every text is stored as soon as it is
written.  A closed buffer can be flushed as well. -/
def flush (buffer : Buffer) : Buffer := buffer

/-- Forgets the text, the position and what is held back. -/
def clear (buffer : Buffer) : Attempt Buffer Unit :=
  buffer.whenOpen fun b => ((), { b with stored := [], position := 0, pending := [] })

/-- Closes a buffer of the shell's own; a lent one stays as it is. -/
def close (buffer : Buffer) : Buffer :=
  if buffer.owned then { buffer with closed := true } else buffer

/-- Forgets what is held back. -/
def resetSource (buffer : Buffer) : Buffer := { buffer with pending := [] }

/-- Reading this way goes to the stored text, because what is held back is not enough. -/
def needsStored (buffer : Buffer) : Reading → Bool
  | .line => buffer.pending.isEmpty
  | .word => buffer.pending.allBlank
  | .all => true

/-- Reads in the given way. -/
def read (how : Reading) (buffer : Buffer) : Attempt Buffer (Option Text) :=
  if buffer.closed && buffer.needsStored how then
    (.error (.defect .closedStream), buffer.resetSource)
  else
    let (result, source) := buffer.source.read how
    (.ok result, buffer.moveTo source)

/-- A lent buffer is not closed. -/
theorem close_of_not_owned {buffer : Buffer} (h : buffer.owned = false) :
    buffer.close = buffer := by
  simp [close, h]

end Buffer

end PipedShell
