import PipedShell.Fault
import PipedShell.Text.Utf8

/-!
# Limits

A line may have so many characters and so many stages, and the output that a response carries so
many bytes of UTF-8.

* `checkLine` and `checkStages` refuse what exceeds a limit.
* `truncate` cuts a text down to a limit and marks the cut.
-/

namespace PipedShell

/-- Refuses a line of more characters than the limit. -/
def checkLine (line : Text) (limit : Int) : Except LineFault Unit :=
  if (line.length : Int) > limit then .error (.lineTooLong limit) else .ok ()

/-- Refuses more stages than the limit. -/
def checkStages (count limit : Int) : Except LineFault Unit :=
  if count > limit then .error (.tooManyStages limit) else .ok ()

/-- The line that marks a cut. -/
def truncationMark : Text := "\n...(truncated)\n"

/-- How many bytes of `size` a limit leaves; a negative one counts from the end. -/
def bytesKept (size : Nat) (limit : Int) : Nat :=
  if limit ≥ 0 then limit.toNat else (size + limit).toNat

/-- A text as it is if its bytes are within the limit, or else what the bytes up to the limit stand
for, with a mark after it; also whether it was cut. -/
def truncate (t : Text) (limit : Int) : Text × Bool :=
  if ((Utf8.encode t).length : Int) ≤ limit then (t, false)
  else (t.clipped (bytesKept (Utf8.encode t).length limit) ++ truncationMark, true)

end PipedShell
