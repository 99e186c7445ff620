import PipedShell.Proofs.PipeRange.Grammar
import PipedShell.Session.Execution

/-!
# What becomes of a line before it runs

A session reviews a line before it runs anything of it.  There are four checks, and each counts
only once those before it have passed: the length, the quotes, the grammar, the number of stages.
This file gives the three verdicts as relations, one equation of `Session.runText` for each, and
what a refusal leaves behind, which is nothing but log records.

* `Session.Refuses` — the line is refused for a fault; `Session.IsBlank` — there is nothing to run;
  `Session.Accepts` — these ranges are going to run.  `Session.review_cases` says that there is no
  fourth verdict.
* `runText_of_refuses`, `runText_of_isBlank`, `runText_of_accepts` — the equations.
* **`execute_reviews_first`** — a refused line runs no command and changes nothing, at any depth of
  lines run by lines; a line that is not refused runs.
-/

namespace PipedShell

namespace Session

/-! ## The verdicts -/

/-- The line has no more characters than the limit. -/
def Fits (session : Session) (line : Text) : Prop :=
  (line.length : Int) ≤ session.config.maxInputChars

instance (session : Session) (line : Text) : Decidable (session.Fits line) :=
  inferInstanceAs (Decidable (_ ≤ _))

/-- The line fits, is well quoted and has tokens. -/
structure HasTokens (session : Session) (line : Text) : Prop where
  fits : session.Fits line
  quoted : (tokenize line).openQuote = none
  not_blank : (tokenize line).tokens ≠ []

/-- The ranges that the tokens of a line are read as, or why they are not. -/
def grammar (session : Session) (line : Text) : Except LineFault (List PipeRange) :=
  (PipeRange.parse (session.commands.contains ·) (tokenize line).tokens).result

/-- Why a session refuses a line: the first check that the line does not pass. -/
inductive Refuses (session : Session) (line : Text) : LineFault → Prop
  /-- The line has too many characters. -/
  | tooLong (too_long : session.config.maxInputChars < (line.length : Int)) :
      Refuses session line (.lineTooLong session.config.maxInputChars)
  /-- A quote is left open. -/
  | unbalanced {quote : Char} (fits : session.Fits line)
      (left_open : (tokenize line).openQuote = some quote) :
      Refuses session line (.unbalancedQuote quote)
  /-- The tokens are no line of the grammar. -/
  | misread {fault : LineFault} (tokens : session.HasTokens line)
      (fails : session.grammar line = .error fault) : Refuses session line fault
  /-- All ranges together have too many stages. -/
  | tooManyStages {ranges : List PipeRange} (tokens : session.HasTokens line)
      (reads : session.grammar line = .ok ranges)
      (too_many : session.config.maxPipeStages < (PipeRange.stageCount ranges : Int)) :
      Refuses session line (.tooManyStages session.config.maxPipeStages)

/-- There is nothing to run. -/
structure IsBlank (session : Session) (line : Text) : Prop where
  fits : session.Fits line
  quoted : (tokenize line).openQuote = none
  blank : (tokenize line).tokens = []

/-- The line passes all checks, and these are its ranges. -/
structure Accepts (session : Session) (line : Text) (ranges : List PipeRange) : Prop where
  tokens : session.HasTokens line
  reads : session.grammar line = .ok ranges
  few_enough : (PipeRange.stageCount ranges : Int) ≤ session.config.maxPipeStages

/-- Every line is refused, blank or accepted. -/
lemma review_cases (session : Session) (line : Text) :
    (∃ fault, session.Refuses line fault) ∨ session.IsBlank line ∨
      ∃ ranges, session.Accepts line ranges := by
  by_cases hfits : session.Fits line
  · cases hquote : (tokenize line).openQuote with
    | some quote => exact Or.inl ⟨_, .unbalanced hfits hquote⟩
    | none =>
        by_cases hblank : (tokenize line).tokens = []
        · exact Or.inr (Or.inl ⟨hfits, hquote, hblank⟩)
        · have htokens : session.HasTokens line := ⟨hfits, hquote, hblank⟩
          cases hread : session.grammar line with
          | error fault => exact Or.inl ⟨fault, .misread htokens hread⟩
          | ok ranges =>
              by_cases hfew :
                  (PipeRange.stageCount ranges : Int) ≤ session.config.maxPipeStages
              · exact Or.inr (Or.inr ⟨ranges, htokens, hread, hfew⟩)
              · exact Or.inl ⟨_, .tooManyStages htokens hread (Int.not_le.1 hfew)⟩
  · exact Or.inl ⟨_, .tooLong (Int.not_le.1 hfits)⟩

/-- The verdict depends on the settings, and on what the tokens are read as. -/
lemma Refuses.of_same {session other : Session} {line : Text} {fault : LineFault}
    (h : session.Refuses line fault) (hconfig : other.config = session.config)
    (hgrammar : other.grammar line = session.grammar line) : other.Refuses line fault := by
  have hfits : session.Fits line → other.Fits line := by
    rw [Fits, Fits, hconfig]
    exact id
  have htokens : session.HasTokens line → other.HasTokens line :=
    fun htokens => ⟨hfits htokens.fits, htokens.quoted, htokens.not_blank⟩
  cases h with
  | tooLong htoo =>
      rw [← hconfig] at htoo ⊢
      exact .tooLong htoo
  | unbalanced hfit hopen => exact .unbalanced (hfits hfit) hopen
  | misread hhas hfails => exact .misread (htokens hhas) (hgrammar.trans hfails)
  | tooManyStages hhas hreads hmany =>
      rw [← hconfig] at hmany ⊢
      exact .tooManyStages (htokens hhas) (hgrammar.trans hreads) hmany

/-! ## One equation for each verdict -/

/-- The session with further log records. -/
def logAll (records : List Record) (session : Session) : Session :=
  { session with errors := session.errors ++ records.map .record }

/-- The end of a line that ran: its code is the last code, and what it wrote is flushed. -/
def conclude : Attempt Session Outcome → Attempt Session Outcome
  | (.ok outcome, after) => (.ok outcome, flush { after with lastCode := outcome.code })
  | (.error fault, after) => (.error fault, after)

lemma checkLine_of_fits {session : Session} {line : Text} (h : session.Fits line) :
    checkLine line session.config.maxInputChars = .ok () := by
  have hle : ¬ (line.length : Int) > session.config.maxInputChars := Int.not_lt.2 h
  simp [checkLine, hle]

lemma readRanges_of_hasTokens {session : Session} {line : Text} (h : session.HasTokens line) :
    session.readRanges line = session.grammar line := by
  have hcheck : (tokenize line).check = .ok (tokenize line).tokens := by
    simp [Lexed.check, h.quoted]
  have hne := h.not_blank
  simp only [readRanges, PipeRange.parseLine, hcheck]
  cases htokens : (tokenize line).tokens with
  | nil => exact absurd htokens hne
  | cons token tokens => simp [grammar, htokens]

lemma runText_of_accepts {session : Session} {line : Text} {ranges : List PipeRange}
    (h : session.Accepts line ranges) (run : LineRunner) :
    runText run line session = conclude
      ((session.log (.parsed ranges)).runRanges run session.config.shortCircuit ranges) := by
  have hstages : checkStages (PipeRange.stageCount ranges) session.config.maxPipeStages
      = .ok () := by
    simp [checkStages, Int.not_lt.2 h.few_enough]
  have hne : ranges ≠ [] := PipeRange.parse_ne_nil h.reads
  simp only [runText, checkLine_of_fits h.tokens.fits, readRanges_of_hasTokens h.tokens, h.reads]
  cases ranges with
  | nil => exact absurd rfl hne
  | cons range ranges =>
      simp only [hstages]
      rfl

lemma runText_of_isBlank {session : Session} {line : Text} (h : session.IsBlank line)
    (run : LineRunner) : runText run line session = (.ok (.proceed session.lastCode), session) := by
  have hread : session.readRanges line = .ok [] := by
    simp [readRanges, PipeRange.parseLine, Lexed.check, h.quoted, h.blank]
  simp [runText, checkLine_of_fits h.fits, hread]

/-- The log record of a line that could be read: its ranges. -/
def readingRecords (session : Session) (line : Text) : List Record :=
  if (line.length : Int) ≤ session.config.maxInputChars then
    match (tokenize line).openQuote, session.grammar line with
    | none, .ok ranges => [.parsed ranges]
    | _, _ => []
  else []

lemma readingRecords_eq_nil {session : Session} {line : Text} {fault : LineFault}
    (h : session.grammar line = .error fault) : session.readingRecords line = [] := by
  simp only [readingRecords, h]
  split_ifs
  · cases (tokenize line).openQuote <;> rfl
  · rfl

lemma runText_of_refuses {session : Session} {line : Text} {fault : LineFault}
    (h : session.Refuses line fault) (run : LineRunner) :
    runText run line session
      = (.error (.line fault), session.logAll (session.readingRecords line)) := by
  cases h with
  | tooLong htoo =>
      simp [runText, checkLine, htoo, readingRecords, Int.not_le.2 htoo, logAll]
  | unbalanced hfits hopen =>
      simp [runText, checkLine_of_fits hfits, readRanges, PipeRange.parseLine, Lexed.check, hopen,
        Checked.fault, readingRecords, logAll]
  | misread htokens hfails =>
      simp [runText, checkLine_of_fits htokens.fits, readRanges_of_hasTokens htokens, hfails,
        readingRecords_eq_nil hfails, logAll]
  | @tooManyStages ranges htokens hreads hmany =>
      have hne : ranges ≠ [] := PipeRange.parse_ne_nil hreads
      have hstages : checkStages (PipeRange.stageCount ranges) session.config.maxPipeStages
          = .error (.tooManyStages session.config.maxPipeStages) := by
        simp [checkStages, hmany]
      have hfits : (line.length : Int) ≤ session.config.maxInputChars := htokens.fits
      simp only [runText, checkLine_of_fits htokens.fits, readRanges_of_hasTokens htokens, hreads]
      cases ranges with
      | nil => exact absurd rfl hne
      | cons range ranges =>
          simp [hstages, readingRecords, hfits, htokens.quoted, hreads, logAll, log]

/-! ## What a refusal leaves behind -/

@[simp] lemma stderr_logAll (records : List Record) (session : Session) :
    (session.logAll records).stderr = session.stderr := by
  simp [logAll, stderr, List.flatMap_map]

@[simp] lemma stderr_log (record : Record) (session : Session) :
    (session.log record).stderr = session.stderr := by
  simp [log, stderr]

lemma stderr_writeError (text : Text) (session : Session) :
    (session.writeError text).stderr
      = session.stderr ++ if session.stderrAttached then text else [] := by
  by_cases h : session.stderrAttached <;> simp [writeError, stderr, h]

/-- Two registries that know the same names, whatever the commands do. -/
def SameNames (commands others : Commands) : Prop :=
  ∀ name, commands.contains name = others.contains name

lemma grammar_withCommands {session : Session} {commands : Commands}
    (hnames : SameNames commands session.commands) (line : Text) :
    Session.grammar { session with commands } line = session.grammar line := by
  have hknown : (commands.contains ·) = (session.commands.contains ·) := funext hnames
  simp only [grammar, hknown]

lemma readingRecords_withCommands {session : Session} {commands : Commands}
    (hnames : SameNames commands session.commands) (line : Text) :
    Session.readingRecords { session with commands } line = session.readingRecords line := by
  simp only [readingRecords, grammar_withCommands hnames]

/-- The verdict depends on the names of the commands alone. -/
lemma Refuses.withCommands {session : Session} {line : Text} {fault : LineFault}
    (h : session.Refuses line fault) {commands : Commands}
    (hnames : SameNames commands session.commands) :
    Session.Refuses { session with commands } line fault :=
  h.of_same rfl (grammar_withCommands hnames line)

/-- The log records of reading tell of no command that starts. -/
lemma exists_of_mem_readingRecords {session : Session} {line : Text} {record : Record}
    (h : record ∈ session.readingRecords line) : ∃ ranges, record = .parsed ranges := by
  rw [readingRecords] at h
  split at h
  · split at h
    · exact ⟨_, by simpa using h⟩
    · simp at h
  · simp at h

/-- **A refused line has no effect.**  The checks are made in the order of `Refuses`.  At whatever
depth of lines run by lines, a refused line gives its fault back and leaves the session as it was,
but for the log record of its ranges if it could be read; run with refusals reported, it also adds
the text of the fault to the error stream and makes the last code 1.  All this is so whatever the
commands of the session do, since none of them is started.  A line that is not refused is blank, and
changes nothing either, or its ranges run. -/
theorem execute_reviews_first (depth : Nat) (session : Session) (line : Text) :
    (∀ fault, session.Refuses line fault →
      (∀ record ∈ session.readingRecords line, ∃ ranges, record = .parsed ranges) ∧
      ∀ commands, SameNames commands session.commands →
        let before : Session := { session with commands }
        let after := before.logAll (session.readingRecords line)
        let reported := (after.log (.rejected line fault)).writeError (fault.message ++ "\n")
        execute (depth + 1) line before = (.error (.line fault), after) ∧
        after.stderr = before.stderr ∧
        reporting (execute (depth + 1)) line before
          = (.ok (.proceed 1), { reported with lastCode := 1 }) ∧
        reported.stderr
          = before.stderr ++ if before.stderrAttached then fault.message ++ "\n" else []) ∧
    ((∀ fault, ¬ session.Refuses line fault) →
      (session.IsBlank line ∧
        execute (depth + 1) line session = (.ok (.proceed session.lastCode), session)) ∨
      ∃ ranges, session.Accepts line ranges ∧
        execute (depth + 1) line session = conclude
          ((session.log (.parsed ranges)).runRanges (execute depth) session.config.shortCircuit
            ranges)) := by
  constructor
  · intro fault hrefused
    refine ⟨fun record hmem => exists_of_mem_readingRecords hmem, ?_⟩
    intro commands hnames before after reported
    have hexecute : execute (depth + 1) line before = (.error (.line fault), after) := by
      have hbefore := runText_of_refuses (hrefused.withCommands hnames) (execute depth)
      rwa [readingRecords_withCommands hnames] at hbefore
    refine ⟨hexecute, stderr_logAll _ _, ?_, ?_⟩
    · simp only [reporting, hexecute]
      rfl
    · have hattached : (after.log (.rejected line fault)).stderrAttached
          = before.stderrAttached := rfl
      rw [stderr_writeError, hattached, stderr_log, stderr_logAll]
  · intro hnot
    rcases session.review_cases line with ⟨fault, h⟩ | h | ⟨ranges, h⟩
    · exact absurd h (hnot fault)
    · exact Or.inl ⟨h, runText_of_isBlank h _⟩
    · exact Or.inr ⟨ranges, h, runText_of_accepts h _⟩

/-- A session with the one command `a`, which fails when it is started. -/
def oneCommand : Session where
  commands := .ofList [⟨{ name := "a" }, some fun _ => .fail (.defect .closedStream)⟩]

/-- The third stage of a line is unknown, after two that could run. -/
lemma oneCommand_refuses :
    oneCommand.Refuses "a | a && b" (.unknownCommand "b") ∧
      oneCommand.readingRecords "a | a && b" = [] := by
  have htokens : tokenize "a | a && b" = ⟨[.ofWord "a", .ofOperator .pipe, .ofWord "a",
      .ofOperator .andThen, .ofWord "b"], none⟩ := by decide
  have hgrammar : oneCommand.grammar "a | a && b" = .error (.unknownCommand "b") := by
    rw [grammar, htokens]
    rfl
  refine ⟨.misread ⟨?_, by rw [htokens], by rw [htokens]; decide⟩ hgrammar, ?_⟩
  · show (("a | a && b" : Text).length : Int) ≤ 1250
    decide
  · exact readingRecords_eq_nil hgrammar

theorem execute_reviews_misread :
    oneCommand.Refuses "a | a && b" (.unknownCommand "b") ∧
      execute 2 "a | a && b" oneCommand = (.error (.line (.unknownCommand "b")), oneCommand) := by
  obtain ⟨hrefused, hrecords⟩ := oneCommand_refuses
  have happlied := ((execute_reviews_first 1 oneCommand "a | a && b").1 _ hrefused).2
    oneCommand.commands fun _ => rfl
  rw [hrecords] at happlied
  have hsame : oneCommand.logAll [] = oneCommand := rfl
  exact ⟨hrefused, hsame ▸ happlied.1⟩

end Session

end PipedShell
