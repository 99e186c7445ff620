import Mathlib.Data.List.DropRight
import PipedShell.Proofs.Pipe.RestOfLine
import PipedShell.Proofs.Session.Composition

/-!
# Commands that count lines

`head`, `tail` and `wc` have one notion of a line: a piece between line feeds, the last piece
counting unless it is empty.  They read a text as its lines and write lines as a text, and what one
of them writes is read again as exactly the lines that it wrote.

* `Source.ReadsLines` — reading line after line, until there is none; `Settled.readsLines_iff` says
  that this gives the lines of all that is to come, which is how `Program.readLines` reads.
* `Program.WritesLines` — a program that reads all lines and writes others; `writesLines_head` and
  so on say so of the commands, and `compose_writesLines` says it of programs one after another.
* `Builtin.Passes` — what a stage of these commands makes of the lines that it reads.
* **`Builtin.lines_agree`** — ranges of these commands, on any text.
-/

namespace PipedShell

/-! ## Line after line -/

namespace Source

/-- Lines are read from a source, one after another, until there is none. -/
inductive ReadsLines : Source → List Text → Source → Prop
  | stop {source rest : Source} (hnone : source.readLine = (none, rest)) :
      ReadsLines source [] rest
  | next {source middle rest : Source} {line : Text} {lines : List Text}
      (hline : source.readLine = (some line, middle)) (hlines : ReadsLines middle lines rest) :
      ReadsLines source (line :: lines) rest

/-- Reading line after line gives the lines of the text, and leaves nothing. -/
lemma readsLines_ofText (text : Text) : ReadsLines (ofText text) text.lines (ofText []) := by
  induction text using Text.line_induction with
  | nil => exact .stop rfl
  | lastLine line hline hne =>
      have hread : (ofText line).readLine = (some line, ofText []) := by
        rw [(settled_ofText line).readLine_eq (by simpa using hne), remaining_ofText,
          Text.cutLine_of_not_mem hline, Text.chomp_of_not_mem hline]
      rw [Text.lines_of_not_mem hline hne]
      exact .next hread (.stop rfl)
  | line line rest hline ih =>
      have hread : (ofText (line ++ '\n' :: rest)).readLine = (some line, ofText rest) := by
        rw [(settled_ofText _).readLine_eq (by simp), remaining_ofText,
          Text.cutLine_append_of_not_mem hline, Text.cutLine_cons, if_pos rfl]
        simp [Text.chomp_append_feed]
      rw [Text.lines_append_feed hline]
      exact .next hread ih

/-- The first line that is read decides about all of them. -/
lemma ReadsLines.of_readLine_eq {source other rest : Source} {lines : List Text}
    (h : ReadsLines other lines rest) (heq : source.readLine = other.readLine) :
    ReadsLines source lines rest := by
  cases h with
  | stop hnone => exact .stop (heq.trans hnone)
  | next hline hlines => exact .next (heq.trans hline) hlines

lemma ReadsLines.unique {source rest rest' : Source} {lines lines' : List Text}
    (h : ReadsLines source lines rest) (h' : ReadsLines source lines' rest') :
    lines' = lines ∧ rest' = rest := by
  induction h generalizing lines' with
  | stop hnone =>
      cases h' with
      | stop hnone' => exact ⟨rfl, congrArg Prod.snd (hnone'.symm.trans hnone)⟩
      | next hline' _ => cases hline'.symm.trans hnone
  | next hline _ ih =>
      cases h' with
      | stop hnone' => cases hnone'.symm.trans hline
      | next hline' hlines' =>
          cases hline'.symm.trans hline
          obtain ⟨rfl, rfl⟩ := ih hlines'
          exact ⟨rfl, rfl⟩

lemma Settled.readLine_eq_ofText {source : Source} (h : source.Settled) :
    source.readLine = (ofText source.remaining).readLine := by
  have hsettled := settled_ofText source.remaining
  by_cases hnil : source.remaining = []
  · rw [h.readLine_of_nil hnil, hsettled.readLine_of_nil hnil]
  · rw [h.readLine_eq hnil, hsettled.readLine_eq hnil, remaining_ofText]

/-- **Reading line after line is reading all and cutting it into lines**, also where a rest of a
line is pending. -/
theorem Settled.readsLines_iff {source rest : Source} {lines : List Text} (h : source.Settled) :
    ReadsLines source lines rest ↔ lines = source.readAll.1.lines ∧ rest = source.readAll.2 := by
  have hread : ReadsLines source source.readAll.1.lines source.readAll.2 :=
    (readsLines_ofText source.remaining).of_readLine_eq h.readLine_eq_ofText
  constructor
  · exact fun hlines => hread.unique hlines
  · rintro ⟨rfl, rfl⟩
    exact hread

end Source

lemma Text.feed_not_mem_ofInt (n : ℕ) : '\n' ∉ Text.ofInt n := by
  have hrepr : toString (n : ℤ) = n.repr := rfl
  rw [ofInt, hrepr, Nat.toList_repr]
  intro hmem
  exact absurd (Nat.isDigit_of_mem_toDigits (by decide) (by decide) hmem) (by decide)

/-! ## Programs from lines to lines -/

namespace Program

/-- The program reads all lines of its input and writes what it makes of them.  It makes no line
with a line feed in it. -/
structure WritesLines (program : Program) (select : List Text → List Text) : Prop where
  output : ∀ source : Source,
    (program.alone source).output = Text.unlines (select source.remaining.lines)
  code : ∀ source : Source, (program.alone source).code = 0
  keeps : ∀ lines : List Text, (∀ line ∈ lines, '\n' ∉ line) → ∀ line ∈ select lines, '\n' ∉ line

/-- **Programs one after another hand lines on**, by induction on the programs: the lines that one
writes are the lines that the next one reads. -/
lemma compose_writesLines {programs : List Program} {selections : List (List Text → List Text)}
    (h : List.Forall₂ WritesLines programs selections) (hne : programs ≠ []) (source : Source) :
    ((compose programs source).getLast?.map Solo.output).getD []
      = Text.unlines (selections.foldl (fun lines select => select lines) source.remaining.lines) ∧
    ((compose programs source).map Solo.code).foldl bitOr 0 = 0 := by
  induction h generalizing source with
  | nil => exact absurd rfl hne
  | @cons program select programs selections hfirst hothers ih =>
      have hcode : bitOr 0 (program.alone source).code = 0 := by
        rw [hfirst.code]
        rfl
      cases hothers with
      | nil => simp [compose, hfirst.output, hcode]
      | cons hsecond hothers =>
          have hlines : (Source.ofText (program.alone source).output).remaining.lines
              = select source.remaining.lines := by
            rw [Source.remaining_ofText, hfirst.output]
            exact Text.lines_unlines (hfirst.keeps _ fun _ => Text.not_mem_of_mem_lines)
          obtain ⟨houtput, hcodes⟩ := ih (by simp) (.ofText (program.alone source).output)
          rw [hlines] at houtput
          refine ⟨houtput, ?_⟩
          rw [compose, List.map_cons, List.foldl_cons, hcode]
          exact hcodes

end Program

/-! ## The commands -/

namespace Builtin

lemma alone_writeLines (lines : List Text) (code : Int) (source : Source) :
    (writeLines lines (.result code)).alone source
      = { output := Text.unlines lines, code, rest := source } := by
  rw [writeLines]
  split_ifs with hnil
  · rw [List.isEmpty_iff.1 hnil]
    rfl
  · simp [Program.alone, Program.write, Program.need, Program.result, Value.exitCode,
      Except.toOption]

lemma writesLines_of_eq {program : Program} {select : List Text → List Text}
    (heq : program = .readLines fun lines => writeLines (select lines) (.result 0))
    (hkeeps : ∀ lines : List Text, (∀ line ∈ lines, '\n' ∉ line) →
      ∀ line ∈ select lines, '\n' ∉ line) : program.WritesLines select := by
  have halone : ∀ source : Source, program.alone source
      = { output := Text.unlines (select source.remaining.lines)
          readings := [(.all, some source.remaining)], code := 0, rest := .ofText [] } := by
    intro source
    have hread : source.read .all = (some source.remaining, .ofText []) := rfl
    simp only [heq, Program.readLines, Program.readAll, Program.need, Program.alone, hread,
      Option.getD_some, alone_writeLines]
  exact ⟨fun source => by rw [halone], fun source => by rw [halone], hkeeps⟩

section Commands

variable {count : Text} {n : Int}

lemma writesLines_head (hcount : count.readInt = .ok n) :
    (head (["-n", count] : List Text)).WritesLines fun lines => lines.take n.toNat := by
  refine writesLines_of_eq ?_ fun lines hlines line hmem => hlines line (List.mem_of_mem_take hmem)
  simp [head, lineCount, hcount]

lemma writesLines_tail (hcount : count.readInt = .ok n) :
    (tail (["-n", count] : List Text)).WritesLines fun lines => lines.rtake n.toNat := by
  refine writesLines_of_eq ?_ fun lines hlines line hmem => hlines line (List.mem_of_mem_drop hmem)
  simp [tail, lineCount, hcount, List.rtake]

lemma writesLines_wc :
    (wc (["-l"] : List Text)).WritesLines fun lines => [Text.ofInt lines.length] := by
  refine writesLines_of_eq ?_ fun lines _ line hmem => ?_
  · simp [wc, writeLines, Text.unlines]
  · rw [List.mem_singleton.1 hmem]
    exact Text.feed_not_mem_ofInt _

end Commands

/-- What a stage makes of the lines that it reads: `head` passes the first ones on, as many as its
argument says, `tail` the last ones, and `wc` tells how many there are. -/
inductive Passes : Stage → (List Text → List Text) → Prop
  | head {count : Text} {n : Int} (hcount : count.readInt = .ok n) :
      Passes ⟨"head", ["-n", count]⟩ fun lines => lines.take n.toNat
  | tail {count : Text} {n : Int} (hcount : count.readInt = .ok n) :
      Passes ⟨"tail", ["-n", count]⟩ fun lines => lines.rtake n.toNat
  | wc : Passes ⟨"wc", ["-l"]⟩ fun lines => [Text.ofInt lines.length]

/-- The session has the built-in commands that count lines. -/
def KnowsLines (session : Session) : Prop :=
  ∀ name ∈ (["head", "tail", "wc"] : List Text), session.commands.find? name = commands.find? name

variable {session : Session}

/-- Each of the stages runs a program that makes of lines what it is said to make. -/
lemma exists_program_of_passes {stage : Stage} {select : List Text → List Text}
    (h : Passes stage select) (hknows : KnowsLines session) :
    ∃ program, (session.programOf? stage = some program ∧ program.IsFilter) ∧
      program.WritesLines select := by
  cases h with
  | @head count n hcount =>
      refine ⟨_, ⟨?_, isFilter_head _⟩, writesLines_head hcount⟩
      rw [Session.programOf?, hknows "head" (by simp)]
      rfl
  | @tail count n hcount =>
      refine ⟨_, ⟨?_, isFilter_tail _⟩, writesLines_tail hcount⟩
      rw [Session.programOf?, hknows "tail" (by simp)]
      rfl
  | wc =>
      refine ⟨_, ⟨?_, isFilter_wc _⟩, writesLines_wc⟩
      rw [Session.programOf?, hknows "wc" (by simp)]
      rfl

lemma exists_programs_of_passes {stages : List Stage} {selections : List (List Text → List Text)}
    (h : List.Forall₂ Passes stages selections) (hknows : KnowsLines session) :
    ∃ programs, session.RunFilters stages programs ∧
      List.Forall₂ Program.WritesLines programs selections := by
  induction h with
  | nil => exact ⟨[], .nil, .nil⟩
  | cons hfirst _ ih =>
      obtain ⟨program, hruns, hwrites⟩ := exists_program_of_passes hfirst hknows
      obtain ⟨programs, hrun, hwrite⟩ := ih
      exact ⟨program :: programs, .cons hruns hrun, .cons hwrites hwrite⟩

/-- Stages that count lines print what the last of them makes of the lines that the others passed
on. -/
lemma prints_passes (run : Session.LineRunner) {stages : List Stage}
    {selections : List (List Text → List Text)} (hopen : session.pipeline.BuffersOpen)
    (hattached : session.stdoutAttached = true) (hknows : KnowsLines session)
    (h : List.Forall₂ Passes stages selections) (hne : stages ≠ []) :
    session.Prints run stages 0 (Text.unlines
      (selections.foldl (fun lines select => select lines) session.stdin.remaining.lines)) := by
  obtain ⟨programs, hprograms, hwrites⟩ := exists_programs_of_passes h hknows
  have hnone : programs ≠ [] := by
    rintro rfl
    cases hprograms
    exact hne rfl
  have hprints := Session.prints_filters run hopen hattached hprograms
  obtain ⟨houtput, hcode⟩ := Program.compose_writesLines hwrites hnone session.stdin
  rwa [houtput, hcode] at hprints

/-- **The commands have one notion of a line.**  The lines of a text are the pieces between its line
feeds, but for an empty one at the end, and reading line after line gives just these.  A range of
the commands prints what they make of the lines one after another, each line with a line feed behind
it, and comes to code 0: lines that are written are the lines that are read.  What `head` and `tail`
keep of two parts of a text is the text, with a line feed at its end. -/
theorem lines_agree (run : Session.LineRunner) {input : Text}
    (hopen : session.pipeline.BuffersOpen) (hattached : session.stdoutAttached = true)
    (hknows : KnowsLines session) (hstdin : session.stdin = .ofText input) :
    let lines := Text.withoutFinalEmpty (input.splitOn '\n')
    (∀ (count : Text) (n : Int), count.readInt = .ok n →
      session.Prints run [⟨"head", ["-n", count]⟩] 0 (Text.unlines (lines.take n.toNat)) ∧
      session.Prints run [⟨"tail", ["-n", count]⟩] 0 (Text.unlines (lines.rtake n.toNat))) ∧
    session.Prints run [⟨"wc", ["-l"]⟩] 0 (Text.ofInt lines.length ++ ['\n']) ∧
    (∀ stages selections, List.Forall₂ Passes stages selections → stages ≠ [] →
      session.Prints run stages 0
        (Text.unlines (selections.foldl (fun kept select => select kept) lines))) ∧
    (∀ k ≤ lines.length, ∀ front back : Text,
      front.readInt = .ok (k : Int) → back.readInt = .ok (lines.length - k : Int) →
      ∃ start behind, session.Prints run [⟨"head", ["-n", front]⟩] 0 start ∧
        session.Prints run [⟨"tail", ["-n", back]⟩] 0 behind ∧
        start ++ behind = input.terminated) ∧
    (Source.ofText input).ReadsLines lines (.ofText []) ∧
    ∀ kept : List Text, (∀ line ∈ kept, line ∈ lines) →
      (Source.ofText (Text.unlines kept)).ReadsLines kept (.ofText []) := by
  intro lines
  have hlines : lines = input.lines := (Text.lines_eq_splitOn input).symm
  have hprints : ∀ stages selections, List.Forall₂ Passes stages selections → stages ≠ [] →
      session.Prints run stages 0
        (Text.unlines (selections.foldl (fun kept select => select kept) lines)) := by
    intro stages selections hpasses hne
    have hrange := prints_passes run hopen hattached hknows hpasses hne
    rwa [hstdin, Source.remaining_ofText, ← hlines] at hrange
  have hone : ∀ {stage select}, Passes stage select →
      session.Prints run [stage] 0 (Text.unlines (select lines)) :=
    fun hpasses => hprints _ _ (.cons hpasses .nil) (by simp)
  refine ⟨fun count n hcount => ?_, ?_, hprints, ?_, ?_, ?_⟩
  · have hhead := hone (.head hcount)
    have htail := hone (.tail hcount)
    exact ⟨hhead, htail⟩
  · have hwc := hone .wc
    rwa [Text.unlines, List.flatMap_singleton] at hwc
  · intro k hk front back hfront hback
    refine ⟨_, _, hone (.head hfront), hone (.tail hback), ?_⟩
    have hrest : lines.rtake (lines.length - k : Int).toNat = lines.drop k := by
      rw [List.rtake]
      congr 1
      omega
    rw [hrest, Int.toNat_natCast, ← Text.unlines_append, List.take_append_drop, hlines,
      Text.unlines_lines]
  · rw [hlines]
    exact Source.readsLines_ofText input
  · intro kept hkept
    have hfeed : ∀ line ∈ kept, '\n' ∉ line :=
      fun line hmem => Text.not_mem_of_mem_lines (hlines ▸ hkept line hmem)
    have hread := Source.readsLines_ofText (Text.unlines kept)
    rwa [Text.lines_unlines hfeed] at hread

/-- A new session over a text with an empty line in it and no line feed at its end. -/
def unterminated : Session where
  commands := commands
  stdin := .ofText "one\n\nthree"

theorem lines_agree_unterminated :
    unterminated.pipeline.BuffersOpen ∧ unterminated.stdoutAttached = true ∧
    KnowsLines unterminated ∧ unterminated.stdin = .ofText "one\n\nthree" ∧
    unterminated.Prints Session.run [⟨"tail", ["-n", " +2"]⟩] 0 "\nthree\n" ∧
    unterminated.Prints Session.run [⟨"head", ["-n", "-1"]⟩] 0 [] ∧
    unterminated.Prints Session.run [⟨"tail", ["-n", "2"]⟩, ⟨"wc", ["-l"]⟩] 0 "2\n" := by
  have hopen : unterminated.pipeline.BuffersOpen := by
    intro slot
    cases slot <;> rfl
  have hknows : KnowsLines unterminated := fun _ _ => rfl
  have htwo : Text.readInt "2" = .ok 2 := by decide
  obtain ⟨hkeeps, -, hranges, -⟩ := lines_agree Session.run hopen rfl hknows rfl
  have hlines : Text.withoutFinalEmpty (List.splitOn '\n' ("one\n\nthree" : Text))
      = (["one", "", "three"] : List Text) := by decide
  rw [hlines] at hkeeps hranges
  have htail := (hkeeps " +2" 2 (by decide)).2
  have hhead := (hkeeps "-1" (-1) (by decide)).1
  have hcounted := hranges _ _ (.cons (.tail htwo) (.cons .wc .nil)) (by simp)
  exact ⟨hopen, rfl, hknows, rfl, htail, hhead, hcounted⟩

end Builtin

end PipedShell
