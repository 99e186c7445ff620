import PipedShell.Program
import PipedShell.Text.Lowercase

/-!
# Built-in commands that filter lines

Each of them reads all lines of its input and writes some of them back, every line ended by a line
feed; nothing at all is written when no line is.

* `Builtin.cat` copies its input as it is.
* `Builtin.grep` keeps the lines that hold a pattern.
* `Builtin.head` and `Builtin.tail` keep lines at the beginning and at the end.
* `Builtin.wc` counts lines.
-/

namespace PipedShell.Builtin

/-- Writes lines, if there are any, and goes on. -/
def writeLines (lines : List Text) (next : Program) : Program :=
  if lines.isEmpty then next else .write (Text.unlines lines) next

/-- Copies the input. -/
def cat : Body := fun _ => .readAll fun text => .write text (.result 0)

/-- What the arguments of a search say: the pattern, and whether case is ignored. -/
structure Search where
  ignoreCase : Bool
  pattern : Text
  deriving DecidableEq, Repr

namespace Search

/-- The options that make a search ignore case. -/
def ignoreCaseOptions : List Text := ["-i", "--ignore-case"]

/-- The search that arguments ask for: the pattern is the first argument that does not start with
a minus sign, and those before it are options. -/
def ofArgs? (ignoreCase : Bool) : List Text → Option Search
  | [] => none
  | arg :: args =>
    if arg.head? == some '-' then ofArgs? (ignoreCase || ignoreCaseOptions.elem arg) args
    else some ⟨ignoreCase, arg⟩

/-- Whether a line holds the pattern. -/
def finds (search : Search) (line : Text) : Bool :=
  if search.ignoreCase then line.lower.hasPiece search.pattern.lower
  else line.hasPiece search.pattern

end Search

/-- Keeps the lines that hold the pattern. -/
def grep : Body := fun args =>
  match Search.ofArgs? false args with
  | none => .writeError "grep: pattern required\n" (.result 2)
  | some search => .readLines fun lines =>
    let found := lines.filter search.finds
    writeLines found (.result (if found.isEmpty then 1 else 0))

/-- The number of lines that are kept when the arguments do not say. -/
def defaultLineCount : Nat := 10

/-- The number of lines that arguments ask for; a negative number is none at all.  Fails with the
argument that is no number. -/
def lineCount : List Text → Except Text Nat
  | option :: count :: _ =>
    if option == "-n" || option == "--lines" then
      match count.readInt with
      | .ok n => .ok n.toNat
      | .error _ => .error count
    else .ok defaultLineCount
  | _ => .ok defaultLineCount

/-- Reports a number of lines that is no number. -/
def badLineCount (command given : Text) : Program :=
  .writeError (command ++ ": invalid number of lines: " ++ given ++ "\n") (.result 1)

/-- Keeps the first lines. -/
def head : Body := fun args =>
  match lineCount args with
  | .error given => badLineCount "head" given
  | .ok n => .readLines fun lines => writeLines (lines.take n) (.result 0)

/-- Keeps the last lines. -/
def tail : Body := fun args =>
  match lineCount args with
  | .error given => badLineCount "tail" given
  | .ok n => .readLines fun lines => writeLines (lines.drop (lines.length - n)) (.result 0)

/-- Counts the lines. -/
def wc : Body := fun args =>
  if args.all fun arg => arg == "-l" || arg == "--lines" then
    .readLines fun lines => .write (Text.ofInt lines.length ++ "\n") (.result 0)
  else .writeError "wc: only -l is supported\n" (.result 1)

end PipedShell.Builtin
