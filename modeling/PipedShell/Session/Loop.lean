import PipedShell.Session.Execution

/-!
# The read loop

A shell reads lines and runs them until there are no more lines or a command asks to leave.  Blank
lines are passed over.  The code of the loop is the one that was asked for, or else the exit code
of the last line.

Lines come from one of three places:

* `Session.loopLines` takes them from a list, in which a gap ends the input;
* `Session.loopAnswers` prompts for each and takes the answers of a user from a list;
* `Session.loopConsole` prompts on the standard output and reads the standard input, which the
  commands read as well.
-/

namespace PipedShell

/-- What a user does at a prompt. -/
inductive Answer where
  /-- Enters a line. -/
  | line (text : Text)
  /-- Ends the input. -/
  | endOfInput
  /-- Interrupts the entry. -/
  | interrupt
  deriving DecidableEq, Repr

namespace Session

/-- Runs a line of the loop unless it is blank.  The result is the code that ends the loop, if
the line does. -/
def loopStep (line : Text) (session : Session) : Attempt Session (Option Int) :=
  if line.allBlank then (.ok none, session)
  else match session.runLine line with
    | (.ok (.terminate code), after) => (.ok (some code), after)
    | (.ok (.proceed _), after) => (.ok none, after)
    | (.error fault, after) => (.error fault, after)

/-- The end of a loop that was not broken off: its code is logged. -/
def endLoop (code : Int) (session : Session) : Attempt Session Int :=
  (.ok code, session.log (.loopFinished code))

/-- Runs lines from a list; the lines not asked for are left. -/
def loopLines : List (Option Text) → Session → Attempt Session Int × List (Option Text)
  | [], session => (session.endLoop session.lastCode, [])
  | none :: rest, session => (session.endLoop session.lastCode, rest)
  | some line :: rest, session =>
    match session.loopStep line with
    | (.ok none, after) => loopLines rest after
    | (.ok (some code), after) => (after.endLoop code, rest)
    | (.error fault, after) => ((.error fault, after), rest)

/-- Prompts for lines and runs the answers; each prompt is remembered.  An interrupted entry is an
empty line. -/
def loopAnswers : List Answer → Session → Attempt Session Int
  | [], session => (session.remember ⟨"prompt", .text session.prompt⟩).endLoop session.lastCode
  | answer :: rest, session =>
    let prompted := session.remember ⟨"prompt", .text session.prompt⟩
    match answer with
    | .endOfInput => prompted.endLoop prompted.lastCode
    | .interrupt => loopAnswers rest (prompted.writeError "\n")
    | .line line =>
      match prompted.loopStep line with
      | (.ok none, after) => loopAnswers rest after
      | (.ok (some code), after) => after.endLoop code
      | (.error fault, after) => (.error fault, after)

/-- Takes the next line of the standard input, past any rest of a line held back; `none` at its
end. -/
def takeStdinLine (session : Session) : Option Text × Session :=
  let (line, rest) := session.stdin.unread.cutLine
  (if line.isEmpty then none else some line.chomp,
    { session with stdin := { session.stdin with unread := rest } })

/-- Prompts on the standard output and runs lines of the standard input, at most `fuel` of them. -/
def loopConsole : (fuel : Nat) → Session → Attempt Session Int
  | 0, session => session.endLoop session.lastCode
  | fuel + 1, session =>
    match takeStdinLine { session with stdout := session.stdout ++ session.prompt } with
    | (none, prompted) => prompted.endLoop prompted.lastCode
    | (some line, prompted) =>
      match prompted.loopStep line with
      | (.ok none, after) => loopConsole fuel after
      | (.ok (some code), after) => after.endLoop code
      | (.error fault, after) => (.error fault, after)

/-- Runs the lines of a list as a shell, and gives back those not asked for. -/
def runLines (lines : List (Option Text)) (session : Session) :
    Attempt Session Int × List (Option Text) :=
  loopLines lines (session.log .loopStarted)

/-- Runs the answers of a user at the prompt. -/
def runAnswers (answers : List Answer) (session : Session) : Attempt Session Int :=
  loopAnswers answers (session.log .loopStarted)

/-- Runs the standard input as a shell.  Every line takes at least one character of it, unless a
command puts another text in its place. -/
def runConsole (session : Session) : Attempt Session Int :=
  loopConsole (session.stdin.unread.length + 1) (session.log .loopStarted)

end Session

end PipedShell
