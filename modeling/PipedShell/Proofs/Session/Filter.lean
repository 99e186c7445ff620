import PipedShell.Proofs.Session.Ends
import PipedShell.Proofs.Session.Launch

/-!
# Programs that only read and write

A *filter* is a program that reads its input, writes its output, complains on the error stream, and
comes to an exit code.  What a filter does depends on nothing but what it reads, so it can be run
*alone*, over a source, with no session at all.

* `Program.IsFilter` — the programs; any step may depend on all that was read before.
* `Program.alone` and `Solo` — running alone: what is written, what the reads give, what is left.
* `Program.compose` — filters run alone one after another, each over what the one before wrote.
* **`play_filter`** — in a session whose ends are in working order, a filter does what it does alone
  over the input of the session, and nothing else.
* `readings_filter` — each of its reads gives what the same read gives alone.
-/

namespace PipedShell

/-- A program that only reads, writes and complains, and returns an exit code.  A read need only be
prepared for what a source can answer. -/
inductive Program.IsFilter : Program → Prop
  | done {value : Value} {code : Int} (exits : value.exitCode = .ok code) : IsFilter (.done value)
  | write {text : Text} {next : Except Fault (Request.write text).Reply → Program}
      (goes_on : IsFilter (next (.ok ()))) : IsFilter (.ask (.write text) next)
  | writeError {text : Text} {next : Except Fault (Request.writeError text).Reply → Program}
      (goes_on : IsFilter (next (.ok ()))) : IsFilter (.ask (.writeError text) next)
  | read {how : Reading} {next : Except Fault (Request.read how).Reply → Program}
      (goes_on : ∀ source : Source, IsFilter (next (.ok (source.read how).1))) :
      IsFilter (.ask (.read how) next)

namespace Program.IsFilter

/-! The ways in which filters are put together. -/

lemma result (code : Int) : (Program.result code).IsFilter := .done rfl

lemma before_write {next : Program} (text : Text) (h : next.IsFilter) :
    (Program.write text next).IsFilter := .write h

lemma before_writeError {next : Program} (text : Text) (h : next.IsFilter) :
    (Program.writeError text next).IsFilter := .writeError h

lemma readAll {next : Text → Program} (h : ∀ text, (next text).IsFilter) :
    (Program.readAll next).IsFilter := .read fun _ => h _

lemma readLines {next : List Text → Program} (h : ∀ lines, (next lines).IsFilter) :
    (Program.readLines next).IsFilter := .readAll fun _ => h _

end Program.IsFilter

/-- What a filter does alone. -/
structure Solo where
  /-- What it writes. -/
  output : Text := []
  /-- What it writes to the error stream. -/
  errors : List Text := []
  /-- How it reads, and what it is given. -/
  readings : List (Reading × Option Text) := []
  code : Int := 0
  /-- What it leaves of the source. -/
  rest : Source

/-- The readings of a filter as a session gives them. -/
def Solo.replies (solo : Solo) : List (Reading × Except Fault (Option Text)) :=
  solo.readings.map fun (how, reply) => (how, .ok reply)

namespace Program

/-- Runs a filter alone over a source.  No other request has an answer without a session. -/
def alone : Program → Source → Solo
  | .done value, source => { code := value.exitCode.toOption.getD 0, rest := source }
  | .ask (.write text) next, source =>
    let solo := alone (next (.ok ())) source
    { solo with output := text ++ solo.output }
  | .ask (.writeError text) next, source =>
    let solo := alone (next (.ok ())) source
    { solo with errors := text :: solo.errors }
  | .ask (.read how) next, source =>
    let solo := alone (next (.ok (source.read how).1)) (source.read how).2
    { solo with readings := (how, (source.read how).1) :: solo.readings }
  | _, source => { rest := source }

/-- Runs filters alone, the first one over a source and each further one over all that the one
before wrote. -/
def compose : List Program → Source → List Solo
  | [], _ => []
  | program :: programs, source =>
    program.alone source :: compose programs (.ofText (program.alone source).output)

end Program

namespace Session

/-- The session after a filter did in it what it did alone. -/
def perform (solo : Solo) (session : Session) : Session :=
  ((session.readTo solo.rest).emit solo.output).complain solo.errors

variable {run : LineRunner} {session : Session}

/-! ## One request of a filter -/

lemma answer_write (h : session.Ends) (text : Text) :
    session.answer run (.write text) = (.ok (), session.emit text) := write_of_ends h text

lemma answer_writeError (text : Text) (session : Session) :
    session.answer run (.writeError text) = (.ok (), session.complain [text]) := rfl

lemma answer_read (h : session.Ends) (how : Reading) :
    session.answer run (.read how)
      = (.ok (session.input.read how).1, session.readTo (session.input.read how).2) :=
  read_of_ends h how

lemma input_readTo_read (how : Reading) (session : Session) :
    (session.readTo (session.input.read how).2).input = (session.input.read how).2 :=
  input_readTo (Source.unread_read_suffix how session.input)

/-! ## A whole run of a filter -/

/-- **A filter does in a session what it does alone** over the input of the session.  By induction
on the program: each request has the effect that it has alone, the ends stay in working order, and
the effects can be sorted by where they go. -/
theorem play_filter {program : Program} (run : LineRunner) (hfilter : program.IsFilter)
    (hends : session.Ends) :
    ∃ value, value.exitCode = .ok (program.alone session.input).code ∧
      session.play run program = (.ok value, session.perform (program.alone session.input)) := by
  induction hfilter generalizing session with
  | @done value code hcode =>
      refine ⟨value, ?_, ?_⟩
      · simp [Program.alone, hcode, Except.toOption]
      · simp [play, Program.alone, perform, readTo_input hends, emit_nil, complain_nil]
  | @write text next _ ih =>
      obtain ⟨value, hcode, hplay⟩ := ih (hends.emit text)
      rw [input_emit hends] at hcode hplay
      refine ⟨value, hcode, ?_⟩
      rw [play, answer_write hends, hplay, perform, readTo_emit hends, emit_emit]
      rfl
  | @writeError text next _ ih =>
      obtain ⟨value, hcode, hplay⟩ := ih (hends.complain [text])
      rw [input_complain] at hcode hplay
      refine ⟨value, hcode, ?_⟩
      rw [play, answer_writeError, hplay, perform, readTo_complain, emit_complain,
        complain_complain]
      rfl
  | @read how next _ ih =>
      obtain ⟨value, hcode, hplay⟩ := ih session.input (hends.readTo (session.input.read how).2)
      rw [input_readTo_read] at hcode hplay
      refine ⟨value, hcode, ?_⟩
      rw [play, answer_read hends, hplay, perform, readTo_readTo]
      rfl

/-- Every read of a filter gives what the same read gives alone. -/
theorem readings_filter {program : Program} (run : LineRunner) (hfilter : program.IsFilter)
    (hends : session.Ends) :
    (session.queries run program).filterMap Query.reading?
      = (program.alone session.input).replies := by
  induction hfilter generalizing session with
  | done hcode => rfl
  | @write text next _ ih =>
      have hrest := ih (hends.emit text)
      rw [input_emit hends] at hrest
      rw [queries, answer_write hends]
      exact hrest
  | @writeError text next _ ih =>
      have hrest := ih (hends.complain [text])
      rw [input_complain] at hrest
      rw [queries, answer_writeError]
      exact hrest
  | @read how next _ ih =>
      have hreading : Query.reading? ⟨.read how, session⟩
          = some (how, .ok (session.input.read how).1) := by
        simp [Query.reading?, read_of_ends hends]
      have hrest := ih session.input (hends.readTo (session.input.read how).2)
      rw [input_readTo_read] at hrest
      rw [queries, answer_read hends, List.filterMap_cons_some hreading, hrest]
      rfl

end Session

end PipedShell
