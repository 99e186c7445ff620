import PipedShell.Fault
import PipedShell.Token.Lexer

/-!
# Pipeline ranges

A line is a list of ranges joined by `&&` and `||`, a range a list of stages joined by `|`, and a
stage the name of a command with its arguments.  The grammar of token lists is

    line  = range, then any number of (boundary operator, range)
    range = stage, then any number of (pipe, stage)
    stage = one or more words, the first one a known command

so after each operator a stage has to open, and that is where every fault shows.

* `Stage`, `Boundary` and `PipeRange` are the parts of a line.
* `PipeRange.parse` reads a token list from left to right and stops at the first fault;
  `PipeRange.parseLine` reads a line.
* `Checked` is a result together with the command names that were looked up on the way.
-/

namespace PipedShell

/-- The operators that join ranges. -/
inductive Boundary where
  /-- Goes on after success. -/
  | andThen
  /-- Goes on after failure. -/
  | orElse
  deriving DecidableEq, Repr

namespace Boundary

/-- The operator as it is written. -/
def spelling : Boundary → Text
  | andThen => "&&"
  | orElse => "||"

/-- The boundary that a kind of token stands for. -/
def ofKind : Option Token.Kind → Except Defect Boundary
  | some .andThen => .ok andThen
  | some .orElse => .ok orElse
  | kind => .error (.notBoundary kind)

end Boundary

/-- One command of a pipeline with its arguments. -/
structure Stage where
  name : Text
  args : List Text
  deriving DecidableEq, Repr

namespace Stage

/-- The name and the arguments. -/
def words (stage : Stage) : List Text := stage.name :: stage.args

/-- One more argument. -/
def addArg (stage : Stage) (arg : Text) : Stage := { stage with args := stage.args ++ [arg] }

end Stage

/-- Stages that are piped into each other, and the operator that joins them to what went before;
the first range of a line has none. -/
structure PipeRange where
  boundary : Option Boundary
  stages : List Stage
  deriving DecidableEq, Repr

/-- A result, and the names that were looked up before it was known, in order. -/
structure Checked (α : Type) where
  names : List Text
  result : Except LineFault α

namespace Checked

/-- A fault found without a look-up. -/
def fault {α : Type} (cause : LineFault) : Checked α := ⟨[], .error cause⟩

/-- A further look-up in front. -/
def after {α : Type} (name : Text) (checked : Checked α) : Checked α :=
  ⟨name :: checked.names, checked.result⟩

/-- The result changed by a function, the look-ups kept. -/
def map {α β : Type} (f : α → β) (checked : Checked α) : Checked β :=
  ⟨checked.names, checked.result.map f⟩

end Checked

namespace PipeRange

/-- Puts a stage in front of the first range. -/
def addStage (stage : Stage) : List PipeRange → List PipeRange
  | [] => [⟨none, [stage]⟩]
  | range :: ranges => { range with stages := stage :: range.stages } :: ranges

/-- Puts a range of one stage in front, joined to the next one by `boundary`. -/
def addRange (stage : Stage) (boundary : Boundary) : List PipeRange → List PipeRange
  | [] => [⟨none, [stage]⟩]
  | range :: ranges => ⟨none, [stage]⟩ :: { range with boundary := some boundary } :: ranges

mutual

/-- Reads tokens where a stage has to open.  `operator` is the text of the operator just read. -/
def parseOpening (known : Text → Bool) (operator : Option Text) :
    List Token → Checked (List PipeRange)
  | [] =>
    match operator with
    | none => .fault .emptyLine
    | some text => .fault (.missingAfter text)
  | token :: tokens =>
    match token.kind with
    | .word =>
      if known token.text then (parseInside known ⟨token.text, []⟩ tokens).after token.text
      else (Checked.fault (.unknownCommand token.text)).after token.text
    | _ => .fault (.missingBefore token.text)

/-- Reads tokens after the first word of `stage`. -/
def parseInside (known : Text → Bool) (stage : Stage) : List Token → Checked (List PipeRange)
  | [] => ⟨[], .ok [⟨none, [stage]⟩]⟩
  | token :: tokens =>
    match token.kind with
    | .word => parseInside known (stage.addArg token.text) tokens
    | .pipe => (parseOpening known (some token.text) tokens).map (addStage stage)
    | .andThen => (parseOpening known (some token.text) tokens).map (addRange stage .andThen)
    | .orElse => (parseOpening known (some token.text) tokens).map (addRange stage .orElse)

end

/-- The ranges of a token list.  The name of a stage is looked up as soon as the stage opens. -/
def parse (known : Text → Bool) (tokens : List Token) : Checked (List PipeRange) :=
  parseOpening known none tokens

/-- The ranges of a line, none for a line without tokens. -/
def parseLine (known : Text → Bool) (line : Text) : Checked (List PipeRange) :=
  match (tokenize line).check with
  | .error cause => .fault cause
  | .ok [] => ⟨[], .ok []⟩
  | .ok tokens => parse known tokens

/-- The number of stages in some ranges. -/
def stageCount (ranges : List PipeRange) : Nat :=
  ranges.foldr (fun range count => range.stages.length + count) 0

end PipeRange

end PipedShell
