import PipedShell.Limits
import PipedShell.Number.Bits
import PipedShell.Session

/-!
# Running lines

A stage is run with the pipe moved on to it, a range stage by stage, and a line range by range.

* `Session.runCommand`, `Session.runRange` and `Session.runRanges` run the parts of a line that has
  been read.  The exit codes of the stages of a range are joined bit by bit; the results of ranges
  are folded from left to right by `Boundary.join`.
* `Session.runText` reads a line, checks it and runs it.  Nothing is run of a line that is refused.
* `Session.execute` ties the knot: programs can run lines, up to a depth.
* `Session.runLine` is the same with refusals reported.

Every range runs, whatever came out before, unless the settings ask for skipping; a skipped range
leaves the result so far as it is.
-/

namespace PipedShell

/-- The result of two ranges joined by a boundary: 0 for success and 1 for failure. -/
def Boundary.join (before after : Bool) : Boundary → Int
  | .andThen => if before && after then 0 else 1
  | .orElse => if before || after then 0 else 1

namespace Session

/-- The exit code of a stage whose command is not registered. -/
def notFoundCode : Int := 127

/-- Runs the command of a stage.  A command that writes where nothing takes the text fails with
code 1, and one that is not registered any more counts as failed. -/
def runCommand (run : LineRunner) (stage : Stage) (session : Session) : Attempt Session Int :=
  match session.commands.find? stage.name with
  | none =>
    (.ok notFoundCode,
      session.writeError ((LineFault.unknownCommand stage.name).message ++ "\n"))
  | some command =>
    match (session.log (.dispatching stage)).invoke run command stage.args with
    | (.error (.line (.closedPipe detail)), after) =>
      (.ok 1, after.writeError (stage.name ++ ": " ++ detail ++ "\n"))
    | other => other

/-- Runs stages one after another, `code` being the codes of those before joined. -/
def runStages (run : LineRunner) (code : Int) : List Stage → Session → Attempt Session Outcome
  | [], session => (.ok (.proceed code), session)
  | stage :: stages, session =>
    match session.onPipeline (Pipeline.advance stages.isEmpty) with
    | (.error fault, moved) => (.error fault, moved)
    | (.ok (), moved) =>
      match moved.runCommand run stage with
      | (.ok next, after) => runStages run (bitOr code next) stages after
      | (.error (.exit asked), after) =>
        (.ok (.terminate asked), after.log (.exitRequested stage.name asked))
      | (.error fault, after) => (.error fault, after)

/-- Runs a range on emptied buffers and closes the pipe afterwards, however the range ends. -/
def runRange (run : LineRunner) (range : PipeRange) (session : Session) : Attempt Session Outcome :=
  match session.onPipeline Pipeline.clearBuffers with
  | (.error fault, cleared) => (.error fault, cleared)
  | (.ok (), cleared) =>
    let (result, after) :=
      { cleared with pipeline := cleared.pipeline.begin }.runStages run 0 range.stages
    (result, { after with pipeline := after.pipeline.finish })

/-- Whether a range is skipped after a result. -/
def skips (succeeded : Bool) : Option Boundary → Bool
  | some .andThen => !succeeded
  | some .orElse => succeeded
  | none => false

/-- The result of a range joined to the result so far; a range without a boundary cannot be. -/
def joinResult (boundary : Option Boundary) (before after : Int) : Except Fault Int :=
  match boundary with
  | some boundary => .ok (boundary.join (before == 0) (after == 0))
  | none => .error (.defect (.notBoundary none))

/-- Runs the ranges after the first one, `result` being the result so far. -/
def runRest (run : LineRunner) (skipping : Bool) (result : Int) :
    List PipeRange → Session → Attempt Session Outcome
  | [], session => (.ok (.proceed result), session)
  | range :: ranges, session =>
    if skipping && skips (result == 0) range.boundary then
      runRest run skipping (if result == 0 then 0 else 1) ranges
        (session.log (.skipping range.boundary))
    else match session.runRange run range with
      | (.ok (.proceed code), after) =>
        match joinResult range.boundary result code with
        | .ok joined => runRest run skipping joined ranges after
        | .error fault => (.error fault, after)
      | (.ok (.terminate code), after) => (.ok (.terminate code), after)
      | (.error fault, after) => (.error fault, after)

/-- Runs ranges and folds their results.  A single range gives its own code unchanged. -/
def runRanges (run : LineRunner) (skipping : Bool) (ranges : List PipeRange) (session : Session) :
    Attempt Session Outcome :=
  match ranges with
  | [] => (.ok (.proceed 0), session)
  | range :: ranges =>
    match session.runRange run range with
    | (.ok (.proceed code), after) => after.runRest run skipping code ranges
    | other => other

/-- The ranges of a line for the commands of a session. -/
def readRanges (line : Text) (session : Session) : Except LineFault (List PipeRange) :=
  (PipeRange.parseLine (session.commands.contains ·) line).result

/-- Reads a line, checks it against the limits and runs it. -/
def runText (run : LineRunner) : LineRunner := fun line session =>
  match checkLine line session.config.maxInputChars with
  | .error fault => (.error (.line fault), session)
  | .ok () =>
    match session.readRanges line with
    | .error fault => (.error (.line fault), session)
    | .ok [] => (.ok (.proceed session.lastCode), session)
    | .ok ranges =>
      let logged := session.log (.parsed ranges)
      match checkStages (PipeRange.stageCount ranges) session.config.maxPipeStages with
      | .error fault => (.error (.line fault), logged)
      | .ok () =>
        match logged.runRanges run session.config.shortCircuit ranges with
        | (.ok outcome, after) => (.ok outcome, flush { after with lastCode := outcome.code })
        | (.error fault, after) => (.error fault, after)

/-- Runs a line whose programs may run lines, `depth` levels of lines in all. -/
def execute : (depth : Nat) → LineRunner
  | 0 => fun _ session => (.error (.defect .nestedTooDeep), session)
  | depth + 1 => runText (execute depth)

/-- How deep lines can run lines. -/
def maxDepth : Nat := 120

/-- Runs a line. -/
def run : LineRunner := execute maxDepth

/-- Runs a line, a refusal being reported on the error stream. -/
def runLine : LineRunner := reporting run

end Session

end PipedShell
