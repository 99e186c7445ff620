import PipedShell.Proofs.Session.Filter

/-!
# Commands that are of no consequence

A *tame* program reads, writes, complains and looks commands up, and in the end it comes to an exit
code or leaves the shell.  It asks for nothing that would outlast it, and it never learns the exit
code of the line before.  This file says what running one leaves of a session, and that it runs in
the same way whatever that exit code was.

* `Program.IsTame` — the programs; every filter is one.
* `Session.Keeps` — the session before and after, compared: only texts, flushes and the last code
  have changed.
* `Session.withCode` — another last code.  `Session.Yields` says what an action comes to with any
  last code.
* **`play_tame`** — a tame program comes to an end in a session whose ends serve, with an exit code
  or a request to leave.
* `runCommand_tame` — a stage does, whether its command is found or not.
-/

namespace PipedShell

/-- A program that reads, writes, complains and looks commands up, and returns an exit code or
leaves the shell.  A read need only be prepared for what a source can answer. -/
inductive Program.IsTame : Program → Prop
  | done {value : Value} {code : Int} (exits : value.exitCode = .ok code) : IsTame (.done value)
  | leave (code : Int) : IsTame (.fail (.exit code))
  | write {text : Text} {next : Except Fault (Request.write text).Reply → Program}
      (goes_on : IsTame (next (.ok ()))) : IsTame (.ask (.write text) next)
  | writeError {text : Text} {next : Except Fault (Request.writeError text).Reply → Program}
      (goes_on : IsTame (next (.ok ()))) : IsTame (.ask (.writeError text) next)
  | read {how : Reading} {next : Except Fault (Request.read how).Reply → Program}
      (goes_on : ∀ source : Source, IsTame (next (.ok (source.read how).1))) :
      IsTame (.ask (.read how) next)
  | describe {name : Text} {next : Except Fault (Request.describe name).Reply → Program}
      (goes_on : ∀ spec, IsTame (next (.ok spec))) : IsTame (.ask (.describe name) next)
  | describeAll {next : Except Fault Request.describeAll.Reply → Program}
      (goes_on : ∀ specs, IsTame (next (.ok specs))) : IsTame (.ask .describeAll next)

lemma Program.IsFilter.isTame {program : Program} (h : program.IsFilter) : program.IsTame := by
  induction h with
  | done hexits => exact .done hexits
  | write _ ih => exact .write ih
  | writeError _ ih => exact .writeError ih
  | read _ ih => exact .read ih

namespace Session

variable {session before after : Session}

/-! ## What is kept -/

/-- Settings, commands and streams are as before, and the buffers are but for what they hold. -/
structure Keeps (before after : Session) : Prop where
  others : after = { before with
    pipeline := after.pipeline
    stdin := after.stdin
    stdout := after.stdout
    flushes := after.flushes
    errors := after.errors
    lastCode := after.lastCode }
  buffers : ∀ slot, (after.pipeline.buffer slot).emptied = (before.pipeline.buffer slot).emptied

namespace Keeps

lemma refl (session : Session) : session.Keeps session := ⟨rfl, fun _ => rfl⟩

lemma trans {later : Session} (h : before.Keeps after) (h' : after.Keeps later) :
    before.Keeps later where
  others := by rw [h'.others, h.others]
  buffers := fun slot => (h'.buffers slot).trans (h.buffers slot)

lemma symm (h : before.Keeps after) : after.Keeps before where
  others := by rw [h.others]
  buffers := fun slot => (h.buffers slot).symm

lemma setBuffer (session : Session) (slot : Slot) {b : Buffer}
    (h : b.emptied = (session.pipeline.buffer slot).emptied) :
    session.Keeps { session with pipeline := session.pipeline.setBuffer slot b } where
  others := rfl
  buffers := by
    intro other
    by_cases heq : other = slot
    · subst heq
      rw [Pipeline.buffer_setBuffer_self, h]
    · rw [Pipeline.buffer_setBuffer_of_ne _ heq]

lemma emit (text : Text) (session : Session) : session.Keeps (session.emit text) := by
  rw [Session.emit]
  split
  · exact setBuffer session _ rfl
  · exact ⟨rfl, fun _ => rfl⟩

lemma readTo (source : Source) (session : Session) : session.Keeps (session.readTo source) := by
  rw [Session.readTo]
  split
  · exact setBuffer session _ rfl
  · exact ⟨rfl, fun _ => rfl⟩

lemma writeError (text : Text) (session : Session) :
    session.Keeps (session.writeError text) := by
  rw [Session.writeError]
  split_ifs
  · exact ⟨rfl, fun _ => rfl⟩
  · exact refl session

lemma log (record : Record) (session : Session) : session.Keeps (session.log record) :=
  ⟨rfl, fun _ => rfl⟩

lemma flush (session : Session) : session.Keeps session.flush := by
  rw [Session.flush]
  split_ifs
  · exact ⟨rfl, fun _ => rfl⟩
  · exact refl session

lemma commands_eq (h : before.Keeps after) : after.commands = before.commands := by rw [h.others]

lemma stdoutAttached_eq (h : before.Keeps after) :
    after.stdoutAttached = before.stdoutAttached := by rw [h.others]

lemma buffersOpen (h : before.Keeps after) (hopen : before.pipeline.BuffersOpen) :
    after.pipeline.BuffersOpen := by
  intro slot
  have hclosed := congrArg Buffer.closed (h.buffers slot)
  exact hclosed.trans (hopen slot)

/-- The ends serve as long as they lead to the same places. -/
lemma serves (h : before.Keeps after)
    (hrouting : after.pipeline.routing = before.pipeline.routing) (hserves : before.Serves) :
    after.Serves where
  buffers_open := h.buffersOpen hserves.buffers_open
  taken := by
    simp only [Pipeline.outputSlot?, hrouting, h.stdoutAttached_eq]
    exact hserves.taken

end Keeps

/-! ## Whatever the last code was -/

/-- The session with another last code. -/
def withCode (code : Int) (session : Session) : Session := { session with lastCode := code }

lemma Serves.withCode (h : session.Serves) (code : Int) : (session.withCode code).Serves :=
  ⟨h.buffers_open, h.taken⟩

lemma emit_withCode (text : Text) (code : Int) (session : Session) :
    (session.withCode code).emit text = (session.emit text).withCode code := by
  simp only [emit, withCode]
  split <;> rfl

lemma readTo_withCode (source : Source) (code : Int) (session : Session) :
    (session.withCode code).readTo source = (session.readTo source).withCode code := by
  simp only [readTo, withCode]
  split <;> rfl

lemma writeError_withCode (text : Text) (code : Int) (session : Session) :
    (session.withCode code).writeError text = (session.writeError text).withCode code := by
  by_cases h : session.stderrAttached <;> simp [writeError, withCode, h]

/-- What an action comes to in a session, whatever its last code is. -/
structure Yields {α : Type} (act : Session → Attempt Session α) (before : Session)
    (result : Except Fault α) (after : Session) : Prop where
  keeps : before.Keeps after
  yields : ∀ code, act (before.withCode code) = (result, after.withCode code)

/-- A first step, and then the rest. -/
lemma Yields.cons {α : Type} {act next : Session → Attempt Session α} {middle : Session}
    {result : Except Fault α} (h : middle.Yields next result after) (hkeeps : before.Keeps middle)
    (hstep : ∀ code, act (before.withCode code) = next (middle.withCode code)) :
    before.Yields act result after where
  keeps := hkeeps.trans h.keeps
  yields := fun code => (hstep code).trans (h.yields code)

/-! ## Programs and commands -/

/-- What a tame program comes to: a value that is an exit code, or a request to leave. -/
def IsTameResult : Except Fault Value → Prop
  | .ok value => ∃ code, value.exitCode = .ok code
  | .error fault => ∃ code, fault = .exit code

/-- **A tame program comes to an end**, by induction on the program: each request is answered, and
the answer does not depend on the last code. -/
lemma play_tame (run : LineRunner) {program : Program} (h : program.IsTame)
    (hserves : session.Serves) :
    ∃ result after, session.Yields (play run program) result after ∧
      after.pipeline.routing = session.pipeline.routing ∧ IsTameResult result := by
  induction h generalizing session with
  | @done value code hexits =>
      exact ⟨.ok value, session, ⟨.refl _, fun _ => rfl⟩, rfl, code, hexits⟩
  | leave code => exact ⟨.error (.exit code), session, ⟨.refl _, fun _ => rfl⟩, rfl, code, rfl⟩
  | @write text next _ ih =>
      have hkeeps := Keeps.emit text session
      have hrouting := routing_emit text session
      obtain ⟨result, after, hrest, hafter, hresult⟩ := ih (hkeeps.serves hrouting hserves)
      refine ⟨result, after, hrest.cons hkeeps fun code => ?_, hafter.trans hrouting, hresult⟩
      have hanswer : (session.withCode code).answer run (.write text)
          = (.ok (), (session.emit text).withCode code) := by
        rw [← emit_withCode]
        exact write_of_serves (hserves.withCode code) text
      rw [play, hanswer]
  | @writeError text next _ ih =>
      have hkeeps := Keeps.writeError text session
      have hrouting := congrArg Pipeline.routing (pipeline_writeError text session)
      obtain ⟨result, after, hrest, hafter, hresult⟩ := ih (hkeeps.serves hrouting hserves)
      refine ⟨result, after, hrest.cons hkeeps fun code => ?_, hafter.trans hrouting, hresult⟩
      simp only [play, answer, writeError_withCode]
  | @read how next _ ih =>
      have hkeeps := Keeps.readTo (session.input.read how).2 session
      have hrouting := routing_readTo (session.input.read how).2 session
      obtain ⟨result, after, hrest, hafter, hresult⟩ :=
        ih session.input (hkeeps.serves hrouting hserves)
      refine ⟨result, after, hrest.cons hkeeps fun code => ?_, hafter.trans hrouting, hresult⟩
      have hanswer : (session.withCode code).answer run (.read how)
          = (.ok (session.input.read how).1,
              (session.readTo (session.input.read how).2).withCode code) := by
        rw [← readTo_withCode]
        exact read_of_serves (hserves.withCode code) how
      rw [play, hanswer]
  | @describe name next _ ih =>
      obtain ⟨result, after, hrest, hafter, hresult⟩ :=
        ih ((session.commands.find? name).map (·.spec)) hserves
      exact ⟨result, after, hrest.cons (.refl _) fun _ => rfl, hafter, hresult⟩
  | @describeAll next _ ih =>
      obtain ⟨result, after, hrest, hafter, hresult⟩ :=
        ih (session.commands.toList.map (·.spec)) hserves
      exact ⟨result, after, hrest.cons (.refl _) fun _ => rfl, hafter, hresult⟩

/-- Every registered command has a program, and all its programs are tame. -/
def AreTame (commands : Commands) : Prop :=
  ∀ command ∈ commands.entries, ∃ body, command.body = some body ∧ ∀ args, (body args).IsTame

lemma invoke_tame (run : LineRunner) {command : Command} {body : Body}
    (hbody : command.body = some body) {args : List Text} (htame : (body args).IsTame)
    (hserves : session.Serves) :
    ∃ result after, session.Yields (invoke run command args) result after ∧
      after.pipeline.routing = session.pipeline.routing ∧
      ∃ code, result = .ok code ∨ result = .error (.exit code) := by
  obtain ⟨result, after, hplay, hrouting, hresult⟩ := play_tame run htame hserves
  cases result with
  | ok value =>
      obtain ⟨code, hcode⟩ := hresult
      refine ⟨.ok code, after, ⟨hplay.keeps, fun last => ?_⟩, hrouting, code, Or.inl rfl⟩
      simp only [invoke, hbody, hplay.yields, hcode, Except.mapError]
  | error fault =>
      obtain ⟨code, rfl⟩ := hresult
      refine ⟨.error (.exit code), after, ⟨hplay.keeps, fun last => ?_⟩, hrouting, code, Or.inr rfl⟩
      simp only [invoke, hbody, hplay.yields]

/-- **A stage comes to an exit code or to a request to leave**, and leaves the pipe where it is. -/
lemma runCommand_tame (run : LineRunner) (htame : AreTame session.commands)
    (hserves : session.Serves) (stage : Stage) :
    ∃ result after, session.Yields (runCommand run stage) result after ∧
      after.pipeline.routing = session.pipeline.routing ∧
      ∃ code, result = .ok code ∨ result = .error (.exit code) := by
  cases hfind : session.commands.find? stage.name with
  | none =>
      let report := (LineFault.unknownCommand stage.name).message ++ "\n"
      refine ⟨.ok notFoundCode, session.writeError report, ⟨.writeError .., fun last => ?_⟩,
        congrArg Pipeline.routing (pipeline_writeError ..), notFoundCode, Or.inl rfl⟩
      have hnone : (session.withCode last).commands.find? stage.name = none := hfind
      simp only [runCommand, hnone, writeError_withCode, report]
  | some command =>
      obtain ⟨body, hbody, hprograms⟩ := htame command (List.mem_of_find?_eq_some hfind)
      have hlogged : (session.log (.dispatching stage)).Serves :=
        ⟨hserves.buffers_open, hserves.taken⟩
      obtain ⟨result, after, hinvoke, hrouting, code, hresult⟩ :=
        invoke_tame run hbody (hprograms stage.args) hlogged
      refine ⟨result, after, ⟨(Keeps.log ..).trans hinvoke.keeps, fun last => ?_⟩, hrouting, code,
        hresult⟩
      have hsome : (session.withCode last).commands.find? stage.name = some command := hfind
      have hlog : (session.withCode last).log (.dispatching stage)
          = (session.log (.dispatching stage)).withCode last := rfl
      rcases hresult with rfl | rfl <;>
        simp only [runCommand, hsome, hlog, hinvoke.yields]

end Session

end PipedShell
