import Mathlib.Data.List.Chain
import PipedShell.Proofs.Session.Closing
import PipedShell.Proofs.Session.Composition

/-!
# Lines run by the stages of a range

One pipeline serves lines at every depth.  A line run by a stage of a range therefore takes the pipe
away from that range as soon as anything of it starts, and closes it in the end.  The range goes on
with the pipe closed: its stages write to the standard output and read the standard input.

**Which lines do harm.**  `Query.Starts` says that a request runs a line of which a range starts.
All other lines, which are blank, refused or too deep, leave the pipeline as it was.

**How the proofs go.**  `Trace` is the course of the requests of a range, whoever makes them.  The
pipe is open until the first request that starts something (`Session.Intact`) and closed from then
on, and this is proved by induction on the trace.

* **`nested_lines_close_pipe`** — exactly when nested lines leave the pipeline alone, what the
  stages read then, and what the pipe is like otherwise.
* `nested_line_loses_text` — a stage that runs `true` between two writes.
-/

namespace PipedShell

/-! ## Programs that leave the pipe alone -/

/-- Whether a request leaves the ends of the pipe to the range that runs. -/
def Request.sparesPipe : Request → Bool
  | beginPipe | advancePipe _ | finishPipe | clearBuffers | closeBuffers => false
  | _ => true

/-- A program that does not act on the pipe itself.  It may run lines, and do anything else. -/
inductive Program.SparesPipe : Program → Prop
  | done (value : Value) : SparesPipe (.done value)
  | fail (fault : Fault) : SparesPipe (.fail fault)
  | ask {request : Request} {next : Except Fault request.Reply → Program}
      (spares : request.sparesPipe = true) (goes_on : ∀ reply, SparesPipe (next reply)) :
      SparesPipe (.ask request next)
  | register {name description : Text} {body : List Text → Program} {next : Program}
      (goes_on : SparesPipe next) : SparesPipe (.register name description body next)

lemma Program.SparesPipe.need {request : Request} {next : request.Reply → Program}
    (hspares : request.sparesPipe = true) (hnext : ∀ reply, (next reply).SparesPipe) :
    (Program.need request next).SparesPipe := by
  refine .ask hspares ?_
  rintro (fault | reply)
  · exact .fail fault
  · exact hnext reply

/-- The program of a launched stage does not act on the pipe itself. -/
def Session.Launch.SparesPipe (launch : Launch) : Prop :=
  ∀ program, launch.session.programOf? launch.stage = some program → program.SparesPipe

/-- The request runs a line of which a range starts. -/
def Query.Starts (depth : Nat) (query : Query) : Prop :=
  ∃ line, query.line? = some line ∧ query.session.Starts depth line

namespace Session

variable {run : LineRunner} {depth : Nat} {session : Session}

/-! ## One request -/

lemma alike_write (text : Text) (session : Session) :
    Pipeline.Alike session.pipeline (session.write text).2.pipeline := by
  rw [write]
  split
  · exact Pipeline.alike_setBuffer (Buffer.closed_write text _)
  · split_ifs <;> exact .refl _

lemma alike_read (how : Reading) (session : Session) :
    Pipeline.Alike session.pipeline (session.read how).2.pipeline := by
  rw [read]
  split
  · exact Pipeline.alike_setBuffer (Buffer.closed_read how _)
  · exact .refl _

/-- A request that runs a line does to the pipeline what the line does, reported or not. -/
lemma pipeline_after {query : Query} {line : Text} (hline : query.line? = some line) :
    (query.after run).pipeline = (run line query.session).2.pipeline := by
  obtain ⟨request, session⟩ := query
  cases request with
  | execute text =>
      obtain rfl : text = line := Option.some.inj hline
      rfl
  | runLine text =>
      obtain rfl : text = line := Option.some.inj hline
      exact pipeline_reporting text
  | _ => cases hline

lemma spares_of_not_starts {query : Query} (hnone : ¬ query.Starts depth) {line : Text}
    (hline : query.line? = some line) :
    (query.after (execute depth)).pipeline = query.session.pipeline := by
  rw [pipeline_after hline]
  exact execute_spares fun hstarts => hnone ⟨line, hline, hstarts⟩

lemma closes_of_starts {query : Query} (hstarts : query.Starts depth)
    (hopen : query.session.pipeline.BuffersOpen) :
    (query.after (execute depth)).pipeline.routing = .idle := by
  obtain ⟨line, hline, hstarts⟩ := hstarts
  rw [pipeline_after hline]
  exact execute_closes hstarts hopen

lemma alike_answer {request : Request} (hspares : request.sparesPipe = true)
    (hnone : ¬ Query.Starts depth ⟨request, session⟩) :
    Pipeline.Alike session.pipeline (session.answer (execute depth) request).2.pipeline := by
  cases request with
  | write text => exact alike_write text session
  | read how => exact alike_read how session
  | execute line | runLine line =>
      have hsame := spares_of_not_starts hnone rfl
      exact hsame ▸ .refl _
  | writeError text =>
      simp only [answer, writeError]
      split_ifs <;> exact .refl _
  | bufferContents =>
      simp only [answer, bufferContents]
      split <;> exact .refl _
  | beginPipe | advancePipe | finishPipe | clearBuffers | closeBuffers => cases hspares
  | _ => exact .refl _

/-! ## The course of the requests -/

/-- A range runs, on open buffers. -/
structure Intact (session : Session) : Prop where
  opened : session.pipeline.routing.opened = true
  buffers_open : session.pipeline.BuffersOpen

/-- What the shell does between two requests: an open pipe stays open and a closed one closed. -/
structure Leads (before after : Session) : Prop where
  intact : before.Intact → after.Intact
  closed : before.pipeline.routing = .idle → after.pipeline.routing = .idle

lemma leads_of_pipeline_eq {before after : Session} (h : after.pipeline = before.pipeline) :
    Leads before after where
  intact := fun hintact => ⟨h ▸ hintact.opened, h ▸ hintact.buffers_open⟩
  closed := fun hclosed => h ▸ hclosed

lemma Leads.trans {first second third : Session} (h : Leads first second)
    (h' : Leads second third) : Leads first third where
  intact := fun hintact => h'.intact (h.intact hintact)
  closed := fun hclosed => h'.closed (h.closed hclosed)

lemma Intact.of_alike {before after : Session} (hintact : before.Intact)
    (h : Pipeline.Alike before.pipeline after.pipeline) : after.Intact where
  opened := by rw [h.routing, hintact.opened]
  buffers_open := h.buffersOpen hintact.buffers_open

lemma leads_advance (last : Bool) (session : Session) :
    Leads session (session.onPipeline (Pipeline.advance last)).2 := by
  set moved : Pipeline := { session.pipeline with routing := session.pipeline.routing.next last }
    with hmoved
  have hopened : moved.routing.opened = session.pipeline.routing.opened :=
    Routing.opened_next session.pipeline.routing last
  have hopen : session.pipeline.BuffersOpen → moved.BuffersOpen := by
    intro hopen slot
    cases slot with
    | first => exact hopen .first
    | second => exact hopen .second
  have hcleared : Pipeline.Alike moved (session.pipeline.advance last).2 := by
    simp only [Pipeline.advance]
    split
    · exact Pipeline.alike_setBuffer (Buffer.closed_clear _)
    · exact .refl _
  constructor
  · intro hintact
    refine ⟨?_, hcleared.buffersOpen (hopen hintact.buffers_open)⟩
    exact (congrArg Routing.opened hcleared.routing).trans (hopened.trans hintact.opened)
  · intro hclosed
    have hidle : moved.routing = .idle := by
      rw [hmoved]
      simp only [hclosed]
      rfl
    exact hcleared.routing.trans hidle

/-- Requests of programs that leave the pipe alone, one after another, with what the shell does in
between. -/
inductive Trace (run : LineRunner) : Session → List Query → Session → Prop
  | nil {before after : Session} (leads : Leads before after) : Trace run before [] after
  | cons {before after : Session} {query : Query} {queries : List Query}
      (leads : Leads before query.session) (spares : query.request.sparesPipe = true)
      (goes_on : Trace run (query.after run) queries after) :
      Trace run before (query :: queries) after

namespace Trace

variable {before middle after : Session} {queries further : List Query}

lemma of_leads (hleads : Leads before middle) (h : Trace run middle queries after) :
    Trace run before queries after := by
  cases h with
  | nil hleads' => exact .nil (hleads.trans hleads')
  | cons hleads' hspares hrest => exact .cons (hleads.trans hleads') hspares hrest

lemma append (h : Trace run before queries middle) (h' : Trace run middle further after) :
    Trace run before (queries ++ further) after := by
  induction h with
  | nil hleads => exact h'.of_leads hleads
  | cons hleads hspares _ ih => exact .cons hleads hspares (ih h')

lemma closed_step {query : Query} (hspares : query.request.sparesPipe = true)
    (hclosed : query.session.pipeline.routing = .idle) :
    (query.after (execute depth)).pipeline.routing = .idle := by
  by_cases hstarts : query.Starts depth
  · obtain ⟨line, hline, -⟩ := hstarts
    rw [pipeline_after hline]
    exact execute_keeps_closed depth line hclosed
  · exact (alike_answer hspares hstarts).routing.trans hclosed

lemma all_closed (h : Trace (execute depth) before queries after)
    (hclosed : before.pipeline.routing = .idle) :
    ∀ query ∈ queries, query.session.pipeline.routing = .idle := by
  induction h with
  | nil => simp
  | cons hleads hspares _ ih =>
      intro other hmem
      have hnow := hleads.closed hclosed
      rcases List.mem_cons.1 hmem with rfl | hmem
      · exact hnow
      · exact ih (closed_step hspares hnow) other hmem

/-- If every nested line leaves the pipeline as it was, then of none of them a range starts. -/
lemma none_starts (h : Trace (execute depth) before queries after) (hintact : before.Intact)
    (hsame : ∀ query ∈ queries, ∀ line, query.line? = some line →
      (query.after (execute depth)).pipeline = query.session.pipeline) :
    ∀ query ∈ queries, ¬ query.Starts depth := by
  induction h with
  | nil => simp
  | @cons before after query queries hleads hspares _ ih =>
      have hnow := hleads.intact hintact
      have hnone : ¬ query.Starts depth := by
        intro hstarts
        obtain ⟨line, hline, -⟩ := id hstarts
        have hidle := closes_of_starts hstarts hnow.buffers_open
        have hopened := hnow.opened
        rw [← hsame query List.mem_cons_self line hline, hidle] at hopened
        cases hopened
      have hnext : (query.after (execute depth)).Intact :=
        hnow.of_alike (alike_answer hspares hnone)
      intro other hmem
      rcases List.mem_cons.1 hmem with rfl | hmem
      · exact hnone
      · exact ih hnext (fun q hq => hsame q (List.mem_cons_of_mem _ hq)) other hmem

/-- Once a range started, the pipe is closed, and it stays so.  The induction is on the trace, over
both phases: the pipe is intact, or it is closed already. -/
lemma closed_once_started (h : Trace (execute depth) before queries after)
    (hphase : before.Intact ∨ before.pipeline.routing = .idle) {earlier later : List Query}
    {query : Query} (hsplit : queries = earlier ++ query :: later)
    (hstarts : query.Starts depth) :
    (query.after (execute depth)).pipeline.routing = .idle ∧
      ∀ other ∈ later, other.session.pipeline.routing = .idle := by
  induction h generalizing earlier with
  | nil => simp at hsplit
  | @cons before after first queries hleads hspares hrest ih =>
      have hnow : first.session.Intact ∨ first.session.pipeline.routing = .idle :=
        hphase.imp hleads.intact hleads.closed
      cases earlier with
      | nil =>
          obtain ⟨rfl, rfl⟩ : first = query ∧ queries = later := by simpa using hsplit
          have hidle : (first.after (execute depth)).pipeline.routing = .idle := by
            rcases hnow with hintact | hclosed
            · exact closes_of_starts hstarts hintact.buffers_open
            · exact closed_step hspares hclosed
          exact ⟨hidle, hrest.all_closed hidle⟩
      | cons other earlier =>
          obtain ⟨rfl, htail⟩ : first = other ∧ queries = earlier ++ query :: later := by
            simpa using hsplit
          refine ih ?_ htail
          rcases hnow with hintact | hclosed
          · by_cases hfirst : first.Starts depth
            · exact Or.inr (closes_of_starts hfirst hintact.buffers_open)
            · exact Or.inl (hintact.of_alike (alike_answer hspares hfirst))
          · exact Or.inr (closed_step hspares hclosed)

end Trace

/-! ## The requests of a range -/

lemma trace_play {program : Program} (run : LineRunner) (hspares : program.SparesPipe)
    (session : Session) :
    Trace run session (session.queries run program) (session.play run program).2 := by
  induction hspares generalizing session with
  | done | fail => exact .nil (leads_of_pipeline_eq rfl)
  | @ask request next hrequest _ ih =>
      have hrest := ih (session.answer run request).1 (session.answer run request).2
      exact .cons (leads_of_pipeline_eq rfl) hrequest hrest
  | @register name description body next _ ih =>
      have hregistered : Leads session (session.register ⟨{ name, description }, some body⟩) :=
        leads_of_pipeline_eq rfl
      rw [queries, play]
      exact (ih _).of_leads hregistered

/-- What a stage does beside running its program does not touch the pipeline. -/
lemma pipeline_runCommand {stage : Stage} {program : Program}
    (hprogram : session.programOf? stage = some program) :
    (session.runCommand run stage).2.pipeline
      = ((session.log (.dispatching stage)).play run program).2.pipeline := by
  obtain ⟨command, hfind, hstarts⟩ := Option.bind_eq_some_iff.1 hprogram
  obtain ⟨body, hbody, rfl⟩ := Option.map_eq_some_iff.1 hstarts
  have hinvoke : ((session.log (.dispatching stage)).invoke run command stage.args).2
      = ((session.log (.dispatching stage)).play run (body stage.args)).2 := by
    simp only [invoke, hbody]
    split
    · next heq => rw [heq]
    · next heq => rw [heq]
  rw [← hinvoke]
  simp only [runCommand, hfind]
  split
  · next heq =>
      rw [heq]
      simp only [writeError]
      split_ifs <;> rfl
  · rfl

lemma pipeline_runCommand_of_none {stage : Stage} (hprogram : session.programOf? stage = none) :
    (session.runCommand run stage).2.pipeline = session.pipeline := by
  simp only [runCommand]
  cases hfind : session.commands.find? stage.name with
  | none =>
      simp only [writeError]
      split_ifs <;> rfl
  | some command =>
      have hbody : command.body = none := by simpa [programOf?, hfind] using hprogram
      simp only [invoke, hbody]
      rfl

lemma trace_launch (run : LineRunner) {launch : Launch} (hspares : launch.SparesPipe) :
    Trace run launch.session (launch.queries run)
      (launch.session.runCommand run launch.stage).2 := by
  cases hprogram : launch.session.programOf? launch.stage with
  | none =>
      simp only [Launch.queries, hprogram]
      exact .nil (leads_of_pipeline_eq (pipeline_runCommand_of_none hprogram))
  | some program =>
      have hplay := trace_play run (hspares program hprogram)
        (launch.session.log (.dispatching launch.stage))
      have hlogged : Leads launch.session (launch.session.log (.dispatching launch.stage)) :=
        leads_of_pipeline_eq rfl
      have hend := (hplay.of_leads hlogged).append
        (.nil (leads_of_pipeline_eq (pipeline_runCommand hprogram)))
      simpa only [Launch.queries, hprogram, List.append_nil] using hend

/-- All requests of some stages, stage after stage. -/
lemma trace_stages (run : LineRunner) {stages : List Stage} {session : Session}
    (hspares : ∀ launch ∈ stageLaunches run stages session, launch.SparesPipe) :
    ∃ after, Trace run session
      ((stageLaunches run stages session).flatMap (Launch.queries run)) after := by
  induction stages generalizing session with
  | nil => exact ⟨session, .nil (leads_of_pipeline_eq rfl)⟩
  | cons stage stages ih =>
      have hmoves := leads_advance stages.isEmpty session
      rcases stageLaunches_cases run stage stages session with hnone | ⟨moved, hadvance, hmore⟩
      · rw [hnone]
        exact ⟨session, .nil (leads_of_pipeline_eq rfl)⟩
      · rw [hadvance] at hmoves
        rcases hmore with hlast | ⟨code, next, hcommand, hcons⟩
        · rw [hlast] at hspares ⊢
          have hlaunch := trace_launch run (hspares _ List.mem_cons_self)
          exact ⟨_, by simpa using hlaunch.of_leads hmoves⟩
        · rw [hcons] at hspares ⊢
          have hlaunch := trace_launch run (hspares _ List.mem_cons_self)
          simp only [hcommand] at hlaunch
          obtain ⟨after, hrest⟩ :=
            ih fun launch hmem => hspares launch (List.mem_cons_of_mem _ hmem)
          exact ⟨after, (hlaunch.of_leads hmoves).append hrest⟩

/-! ## What the stages hand on -/

/-- A request that starts no range adds what it writes to the buffer that is written. -/
lemma fills_answer {request : Request} {slot : Slot} (hspares : request.sparesPipe = true)
    (hnone : ¬ Query.Starts depth ⟨request, session⟩) (hopen : session.pipeline.BuffersOpen)
    (hout : session.pipeline.outputSlot? = some slot)
    (hin : session.pipeline.inputSlot? ≠ some slot) :
    Pipeline.Fills slot (Query.written ⟨request, session⟩) session.pipeline
      (session.answer (execute depth) request).2.pipeline := by
  refine ⟨alike_answer hspares hnone, ?_⟩
  have hnothing : session.pipeline.buffer slot = (session.pipeline.buffer slot).append [] :=
    (Buffer.append_nil _).symm
  cases request with
  | write text =>
      simp only [answer, write, hout, onPipeline, Pipeline.onBuffer, Query.written,
        Buffer.write_of_open (hopen slot), Pipeline.buffer_setBuffer_self]
  | read how =>
      cases hslot : session.pipeline.inputSlot? with
      | none =>
          simp only [answer, read, hslot]
          exact hnothing
      | some other =>
          have hne : slot ≠ other := by
            rintro rfl
            exact hin hslot
          simp only [answer, read, hslot, onPipeline, Pipeline.onBuffer,
            Pipeline.buffer_setBuffer_of_ne _ hne]
          exact hnothing
  | execute line | runLine line =>
      have hsame := spares_of_not_starts hnone rfl
      exact (congrArg (Pipeline.buffer · slot) hsame).trans hnothing
  | writeError text =>
      simp only [answer, writeError]
      split_ifs <;> exact hnothing
  | bufferContents =>
      simp only [answer, bufferContents]
      split <;> exact hnothing
  | beginPipe | advancePipe | finishPipe | clearBuffers | closeBuffers => cases hspares
  | _ => exact hnothing

/-- A program whose nested lines start nothing adds all that it writes to the buffer that is
written. -/
lemma fills_play {program : Program} {slot : Slot} (hspares : program.SparesPipe)
    (hnone : ∀ query ∈ session.queries (execute depth) program, ¬ query.Starts depth)
    (hopen : session.pipeline.BuffersOpen) (hout : session.pipeline.outputSlot? = some slot)
    (hin : session.pipeline.inputSlot? ≠ some slot) :
    Pipeline.Fills slot ((session.queries (execute depth) program).flatMap Query.written)
      session.pipeline (session.play (execute depth) program).2.pipeline := by
  induction hspares generalizing session with
  | done | fail => exact .refl slot _
  | @ask request next hrequest _ ih =>
      rw [queries] at hnone
      have hfirst := fills_answer hrequest (hnone _ List.mem_cons_self) hopen hout hin
      have hrest := ih _ (fun query hmem => hnone query (List.mem_cons_of_mem _ hmem))
        (hfirst.toAlike.buffersOpen hopen)
        (by rw [Pipeline.outputSlot?, hfirst.routing]; exact hout)
        (by rw [Pipeline.inputSlot?, hfirst.routing]; exact hin)
      rw [queries, play, List.flatMap_cons]
      exact hfirst.trans hrest
  | @register name description body next _ ih =>
      rw [queries, play]
      rw [queries] at hnone
      exact ih hnone hopen hout hin

lemma fills_launch {launch : Launch} {slot : Slot} (hspares : launch.SparesPipe)
    (hnone : ∀ query ∈ launch.queries (execute depth), ¬ query.Starts depth)
    (hopen : launch.session.pipeline.BuffersOpen)
    (hout : launch.session.pipeline.outputSlot? = some slot)
    (hin : launch.session.pipeline.inputSlot? ≠ some slot) :
    Pipeline.Fills slot (launch.written (execute depth)) launch.session.pipeline
      (launch.session.runCommand (execute depth) launch.stage).2.pipeline := by
  cases hprogram : launch.session.programOf? launch.stage with
  | none =>
      simp only [Launch.written, Launch.queries, hprogram]
      rw [pipeline_runCommand_of_none hprogram]
      exact .refl slot _
  | some program =>
      simp only [Launch.queries, hprogram] at hnone
      simp only [Launch.written, Launch.queries, hprogram]
      rw [pipeline_runCommand hprogram]
      exact fills_play (hspares program hprogram) hnone hopen hout hin

/-- Stages whose nested lines start nothing: each one reads what the one before wrote. -/
lemma chain_stageLaunches {stages : List Stage} {session : Session}
    (h : session.pipeline.Waits)
    (hspares : ∀ launch ∈ stageLaunches (execute depth) stages session, launch.SparesPipe)
    (hnone : ∀ launch ∈ stageLaunches (execute depth) stages session,
      ∀ query ∈ launch.queries (execute depth), ¬ query.Starts depth) :
    (∀ launch ∈ (stageLaunches (execute depth) stages session).head?,
        launch.session.input = session.upcoming) ∧
      (stageLaunches (execute depth) stages session).IsChain fun launch next =>
        next.session.input = .ofText (launch.written (execute depth)) := by
  induction stages generalizing session with
  | nil => exact ⟨by simp [stageLaunches], .nil⟩
  | cons stage stages ih =>
      have hmoved : session.onPipeline (Pipeline.advance stages.isEmpty)
          = (.ok (), session.movedOn stages.isEmpty) := by
        simp only [onPipeline, Pipeline.advance_eq_movedOn h.buffers_open]
        rfl
      have hinput : (session.movedOn stages.isEmpty).input = session.upcoming := input_movedOn h
      rcases stageLaunches_cases (execute depth) stage stages session with
        hnothing | ⟨moved, hadvance, hmore⟩
      · rw [hnothing]
        exact ⟨by simp, .nil⟩
      · obtain rfl : session.movedOn stages.isEmpty = moved := by
          rw [hmoved] at hadvance
          exact (Prod.mk.inj hadvance).2
        rcases hmore with hlast | ⟨code, after, hcommand, hcons⟩
        · rw [hlast]
          exact ⟨by simpa using hinput, .singleton _⟩
        · rw [hcons] at hspares hnone ⊢
          refine ⟨by simpa using hinput, ?_⟩
          cases stages with
          | nil => exact .singleton _
          | cons second stages =>
              have hout : (session.pipeline.movedOn false).outputSlot?
                  = some session.pipeline.turn := Pipeline.outputSlot?_movedOn h
              have hfills := fills_launch (hspares _ List.mem_cons_self)
                (hnone _ List.mem_cons_self) (Pipeline.buffersOpen_movedOn h.buffers_open) hout
                (Pipeline.inputSlot?_movedOn_ne_turn h)
              simp only [hcommand] at hfills
              obtain ⟨hhead, hchain⟩ := ih (h.of_fills hfills)
                (fun launch hmem => hspares launch (List.mem_cons_of_mem _ hmem))
                (fun launch hmem => hnone launch (List.mem_cons_of_mem _ hmem))
              rw [upcoming_of_fills h hfills] at hhead
              exact List.isChain_cons.2 ⟨hhead, hchain⟩

/-! ## A range -/

/-- **A nested line closes the pipe of the range that it is run in**, unless nothing of it starts.
For every range whose commands leave the pipe alone, and lines run at any depth by any of its
stages:

* all nested lines leave the pipeline as it was exactly if no range starts of any of them;
* the first stage reads the standard input then, and each further one what the one before wrote,
  before and after its nested lines;
* but once a range started the pipe is closed, and every later request of the range finds it so. -/
theorem nested_lines_close_pipe (depth : Nat) (session : Session) (range : PipeRange)
    (hspares : ∀ launch ∈ session.launches (execute depth) range, launch.SparesPipe) :
    let launches := session.launches (execute depth) range
    let queries := launches.flatMap (Launch.queries (execute depth))
    ((∀ query ∈ queries, ∀ line, query.line? = some line →
        (query.after (execute depth)).pipeline = query.session.pipeline) ↔
      ∀ query ∈ queries, ¬ query.Starts depth) ∧
    ((∀ query ∈ queries, ¬ query.Starts depth) →
      (∀ launch ∈ launches.head?, launch.session.input = session.stdin) ∧
      launches.IsChain fun launch next =>
        next.session.input = .ofText (launch.written (execute depth))) ∧
    ∀ earlier query later, queries = earlier ++ query :: later → query.Starts depth →
      (query.after (execute depth)).pipeline.routing = .idle ∧
      ∀ other ∈ later, other.session.pipeline.routing = .idle := by
  intro launches queries
  have hspared : (∀ query ∈ queries, ¬ query.Starts depth) →
      ∀ query ∈ queries, ∀ line, query.line? = some line →
        (query.after (execute depth)).pipeline = query.session.pipeline :=
    fun hnone query hmem _ hline => spares_of_not_starts (hnone query hmem) hline
  by_cases hopen : session.pipeline.BuffersOpen
  · have hlaunches : launches = stageLaunches (execute depth) range.stages session.started :=
      launches_of_open range hopen
    have hwaits : session.started.pipeline.Waits := waits_started hopen
    have hintact : session.started.Intact := ⟨hwaits.opened, hwaits.buffers_open⟩
    have hstages : ∀ launch ∈ stageLaunches (execute depth) range.stages session.started,
        launch.SparesPipe := by
      rwa [← hlaunches]
    obtain ⟨after, htrace⟩ := trace_stages (execute depth) hstages
    rw [← hlaunches] at htrace
    refine ⟨⟨htrace.none_starts hintact, hspared⟩, ?_, ?_⟩
    · intro hnone
      have hchain := chain_stageLaunches hwaits hstages
      rw [← hlaunches] at hchain
      exact hchain fun launch hlaunch query hquery =>
        hnone query (List.mem_flatMap_of_mem hlaunch hquery)
    · intro earlier query later hsplit hstarts
      exact htrace.closed_once_started (Or.inl hintact) hsplit hstarts
  · -- nothing is launched on a closed buffer
    have hnothing : launches = [] := launches_of_closed range hopen
    have hempty : queries = [] := by simp [queries, hnothing]
    rw [hempty, hnothing]
    exact ⟨by simp, by simp, by simp⟩

/-- Writes, runs the line `true`, and writes again. -/
def interrupted : Program :=
  .write "a" (.need (.execute "true") fun _ => .write "b" (.done .none))

/-- A session that has it as the command `outer`. -/
def reentrant : Session where
  commands := Builtin.commands.insert ⟨{ name := "outer" }, some fun _ => interrupted⟩

/-- The line `outer | cat`. -/
def outerThenCat : PipeRange where
  boundary := none
  stages := [⟨"outer", []⟩, ⟨"cat", []⟩]

lemma reentrant_sparesPipe :
    ∀ launch ∈ reentrant.launches (execute 1) outerThenCat, launch.SparesPipe := by
  have hprograms : (reentrant.launches (execute 1) outerThenCat).map
      (fun launch => launch.session.programOf? launch.stage)
        = [some interrupted, some (Builtin.cat [])] := rfl
  intro launch hmem program hprogram
  have hlisted : some program ∈ [some interrupted, some (Builtin.cat [])] := by
    rw [← hprograms, ← hprogram]
    exact List.mem_map_of_mem hmem
  simp only [List.mem_cons, Option.some.injEq, List.not_mem_nil, or_false] at hlisted
  rcases hlisted with rfl | rfl
  · exact .need rfl fun _ => .need rfl fun _ => .need rfl fun _ => .done _
  · exact .need rfl fun _ => .need rfl fun _ => .done _

lemma reentrant_disturbed :
    ¬ ∀ query ∈ (reentrant.launches (execute 1) outerThenCat).flatMap (Launch.queries (execute 1)),
      ∀ line, query.line? = some line →
        (query.after (execute 1)).pipeline = query.session.pipeline := by
  intro hspared
  have hall : ((reentrant.launches (execute 1) outerThenCat).flatMap
      (Launch.queries (execute 1))).all (fun query => query.line?.isNone ||
        (query.after (execute 1)).pipeline == query.session.pipeline) = true := by
    rw [List.all_eq_true]
    intro query hmem
    cases hline : query.line? with
    | none => rfl
    | some line => simpa using hspared query hmem line hline
  exact absurd hall (by decide +kernel)

/-- `outer` writes `ab` in all, the last stage finds nothing to read, and `b` comes out. -/
theorem nested_line_loses_text :
    (¬ ∀ query ∈ (reentrant.launches (execute 1) outerThenCat).flatMap
          (Launch.queries (execute 1)), ∀ line, query.line? = some line →
        (query.after (execute 1)).pipeline = query.session.pipeline) ∧
      (reentrant.launches (execute 1) outerThenCat).map (Launch.written (execute 1))
        = ["ab".toList, []] ∧
      (reentrant.launches (execute 1) outerThenCat).map (·.session.input)
        = [.ofText [], .ofText []] ∧
      (reentrant.runRange (execute 1) outerThenCat).2.stdout = "b" :=
  ⟨reentrant_disturbed, by decide +kernel, by decide +kernel, by decide +kernel⟩

theorem nested_lines_close_pipe_reentrant :
    (∀ launch ∈ reentrant.launches (execute 1) outerThenCat, launch.SparesPipe) ∧
      ∃ query ∈ (reentrant.launches (execute 1) outerThenCat).flatMap
          (Launch.queries (execute 1)),
        query.Starts 1 ∧ (query.after (execute 1)).pipeline.routing = .idle := by
  refine ⟨reentrant_sparesPipe, ?_⟩
  obtain ⟨hiff, -, hcloses⟩ :=
    nested_lines_close_pipe 1 reentrant outerThenCat reentrant_sparesPipe
  obtain ⟨query, hmem, hstarts⟩ : ∃ query ∈ (reentrant.launches (execute 1) outerThenCat).flatMap
      (Launch.queries (execute 1)), query.Starts 1 := by
    by_contra hnone
    push Not at hnone
    exact reentrant_disturbed (hiff.2 hnone)
  obtain ⟨earlier, later, hsplit⟩ := List.append_of_mem hmem
  exact ⟨query, hmem, hstarts, (hcloses earlier query later hsplit hstarts).1⟩

end Session

end PipedShell
