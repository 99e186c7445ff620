import PipedShell.Proofs.Service.History
import PipedShell.Proofs.Session.Review
import PipedShell.Proofs.Token.Trimming

/-!
# Running a line as it was sent

The service drops the blanks at the ends of a line before it runs it.  A session that reads the line
as the same tokens with and without them runs it in the same way, so all that is to be asked is when
it does.  The length of the line does not come into it: a line that was let through is within the
limit with all its blanks.

* `Session.reading` — what a session takes a line for before it looks up any name.
  `Session.runText_congr` says that nothing else of the line counts.
* `Session.reading_trim_eq_iff` — when a line is taken for the same without the blanks at its ends.
* `Session.SameButLog` — two sessions that differ in their log records at most.
* `Service.Reached.config_shell` — every shell on loan has the settings of the service.
* **`Service.respond_runs_as_sent`** — if the blanks can be dropped, the response and the shell are
  those that the line gives as it was sent; otherwise the line is read as something else.
* `Service.escaped_blank_dropped` — a line that is read as something else.
-/

namespace PipedShell

namespace Session

/-! ## What counts of a line -/

/-- What a session takes a line for: its tokens, or a fault of its length or of its quotes. -/
def reading (session : Session) (line : Text) : Except LineFault (List Token) :=
  (checkLine line session.config.maxInputChars).bind fun _ => (tokenize line).check

lemma reading_of_fits {session : Session} {line : Text} (h : session.Fits line) :
    session.reading line = (tokenize line).check := by
  simp [reading, checkLine_of_fits h, Except.bind]

lemma reading_of_not_fits {session : Session} {line : Text} (h : ¬ session.Fits line) :
    session.reading line = .error (.lineTooLong session.config.maxInputChars) := by
  have htoo : (line.length : Int) > session.config.maxInputChars := Int.not_le.1 h
  simp [reading, checkLine, htoo, Except.bind]

lemma check_ne_lineTooLong (lexed : Lexed) (limit : Int) :
    lexed.check ≠ .error (.lineTooLong limit) := by
  rw [Lexed.check]
  cases lexed.openQuote <;> simp

lemma Fits.of_reading_eq {session : Session} {line other : Text}
    (h : session.reading line = session.reading other) (hfits : session.Fits line) :
    session.Fits other := by
  by_contra hnot
  rw [reading_of_fits hfits, reading_of_not_fits hnot] at h
  exact check_ne_lineTooLong _ _ h

/-- Two lines that are taken for the same are run in the same way. -/
lemma runText_congr {session : Session} {line other : Text}
    (h : session.reading line = session.reading other) (run : LineRunner) :
    runText run line session = runText run other session := by
  by_cases hfits : session.Fits line
  · have hother := hfits.of_reading_eq h
    rw [reading_of_fits hfits, reading_of_fits hother] at h
    have hranges : session.readRanges line = session.readRanges other := by
      simp only [readRanges, PipeRange.parseLine, h]
    simp only [runText, checkLine_of_fits hfits, checkLine_of_fits hother, hranges]
  · have hother : ¬ session.Fits other := fun hother => hfits (hother.of_reading_eq h.symm)
    have hline : (line.length : Int) > session.config.maxInputChars := Int.not_le.1 hfits
    have htoo : (other.length : Int) > session.config.maxInputChars := Int.not_le.1 hother
    simp [runText, checkLine, hline, htoo]

/-- The same session but for log records. -/
structure SameButLog (session other : Session) : Prop where
  others : other = { session with errors := other.errors }
  stderr : other.stderr = session.stderr

lemma SameButLog.refl (session : Session) : session.SameButLog session := ⟨rfl, rfl⟩

/-- What a response tells is no matter of log records. -/
lemma SameButLog.ofRun_eq {ran other : Attempt Session Outcome} (hresult : other.1 = ran.1)
    (h : ran.2.SameButLog other.2) (config : Config) :
    Output.ofRun config other = Output.ofRun config ran := by
  have hstdout : other.2.stdout = ran.2.stdout := by rw [h.others]
  simp only [Output.ofRun, hresult, hstdout, h.stderr]

lemma sameButLog_writeError_log (record other : Record) (text : Text) (session : Session) :
    ((session.log record).writeError text).SameButLog
      ((session.log other).writeError text) := by
  constructor
  · by_cases h : session.stderrAttached <;> simp [writeError, log, h]
  · rw [stderr_writeError, stderr_writeError, stderr_log, stderr_log]
    rfl

/-- The report of a refused line names the line in its log record only. -/
lemma runLine_congr {session : Session} {line other : Text}
    (h : session.reading line = session.reading other) :
    (session.runLine other).1 = (session.runLine line).1 ∧
      (session.runLine line).2.SameButLog (session.runLine other).2 := by
  have hrun : session.run other = session.run line := runText_congr h.symm _
  simp only [runLine, reporting, hrun]
  rcases session.run line with ⟨fault | outcome, after⟩
  · cases fault with
    | line fault =>
        obtain ⟨hothers, hstderr⟩ := sameButLog_writeError_log (.rejected line fault)
          (.rejected other fault) (fault.message ++ "\n") after
        exact ⟨rfl, congrArg (fun s : Session => { s with lastCode := 1 }) hothers, hstderr⟩
    | _ => exact ⟨rfl, .refl _⟩
  · exact ⟨rfl, .refl _⟩

/-! ## When the blanks can be dropped -/

lemma Fits.trim {session : Session} {line : Text} (h : session.Fits line) :
    session.Fits line.trim := by
  have hle : (line.trim.length : Int) ≤ line.length := Int.ofNat_le.2 line.length_trim_le
  exact Int.le_trans hle h

/-- A line that is not too long is taken for the same without the blanks at its ends exactly if it
means the same without them. -/
lemma reading_trim_eq_iff {session : Session} {line : Text} (h : session.Fits line) :
    session.reading line.trim = session.reading line ↔ line.TrimsCleanly := by
  rw [reading_of_fits h, reading_of_fits h.trim, check_trim_eq_iff]

end Session

namespace Service

/-- Every shell on loan has the settings of the service. -/
lemma Reached.config_shell {gateway : Gateway} {config : Config} {service : Service}
    {journal : Journal} (h : Reached gateway config service journal) {token : Text} {lease : Lease}
    (hfound : service.find? token = some lease) : lease.shell.config = service.config := by
  rw [h.sound.settings, (h.sound.leases token lease hfound).keeps.others]
  rfl

/-- **When the service runs a line as it was sent.**  The shell takes the line for the same without
the blanks at its ends exactly if a quote is left open in it, or the blanks are separators and none
of them is written behind a backslash.  If so, the response tells what the line as it was sent gives
on the shell of the lease, with the standard input that came with it and fresh output, and the lease
keeps the shell as that line leaves it, but for log records. -/
theorem respond_runs_as_sent {gateway : Gateway} (hsends : gateway.Sends) {service : Service}
    (hlimits : gateway.KeepsLimits service.config) {moment : Moment} {call : Call} {token : Text}
    {lease : Lease} {order : Order} (h : service.Admits gateway moment call token lease order)
    (hsettings : lease.shell.config = service.config) :
    let shell := lease.prepare order.stdin
    let sent := shell.runLine order.command
    (shell.reading order.command.trim = shell.reading order.command
      ↔ order.command.TrimsCleanly) ∧
    (order.command.TrimsCleanly →
      (service.respond gateway moment call).1
          = (Output.ofRun service.config sent).map Response.ofOutput ∧
        ∃ after, (service.respond gateway moment call).2.find? token = some after ∧
          sent.2.SameButLog after.shell) := by
  intro shell sent
  have hfits : shell.Fits order.command := by
    obtain ⟨authorization, hread, -⟩ := h.asks
    have hconfig : shell.config = service.config := hsettings
    rw [Session.Fits, hconfig]
    exact (hlimits call order (Gateway.readOrder_of_read hread)).command
  have hiff := Session.reading_trim_eq_iff hfits
  refine ⟨hiff, fun hclean => ?_⟩
  obtain ⟨hresult, hshell⟩ := Session.runLine_congr (hiff.2 hclean).symm
  rw [respond_of_admits hsends h]
  exact ⟨congrArg (Except.map Response.ofOutput) (hshell.ofRun_eq hresult service.config),
    _, find?_put_self .., hshell⟩

theorem respond_runs_as_sent_padded :
    (lent.handle ⟨0, "u"⟩ (orderCall " echo a ")).1
      = .ok (.ofOutput ⟨"a\n", [], 0, false, false⟩) := by
  have hreached : Reached (.standard {}) {} lent _ := .handled ⟨0, "t"⟩ grantCall .start
  have hadmits : lent.Admits (.standard {}) ⟨0, "u"⟩ (orderCall " echo a ") "t" (.grant {} [] 0)
      ⟨" echo a ", []⟩ := lent_admits (by decide +kernel)
  have hclean : Text.TrimsCleanly " echo a " := by decide +kernel
  have hran : Output.ofRun {} (((Lease.grant {} [] 0).prepare []).runLine " echo a ")
      = .ok ⟨"a\n", [], 0, false, false⟩ := by
    decide +kernel
  have hlimits : (Gateway.standard {}).KeepsLimits lent.config :=
    Gateway.keepsLimits_standard _ (by decide)
  obtain ⟨-, hsent⟩ := respond_runs_as_sent (Gateway.sends_standard _ _) hlimits hadmits
    (hreached.config_shell hadmits.found)
  rw [handle, (hsent hclean).1]
  exact congrArg (Except.map Response.ofOutput) hran

/-- A backslash and a blank write a blank, the service drops it, and the backslash with it. -/
theorem escaped_blank_dropped :
    lent.Admits (.standard {}) ⟨0, "u"⟩ (orderCall "echo a\\\\ ") "t" (.grant {} [] 0)
        ⟨"echo a\\ ", []⟩ ∧
      (lent.handle ⟨0, "u"⟩ (orderCall "echo a\\\\ ")).1
        = .ok (.ofOutput ⟨"a\n", [], 0, false, false⟩) ∧
      (((Lease.grant {} [] 0).prepare []).runLine "echo a\\ ").2.stdout = "a \n" := by
  have hadmits : lent.Admits (.standard {}) ⟨0, "u"⟩ (orderCall "echo a\\\\ ") "t" (.grant {} [] 0)
      ⟨"echo a\\ ", []⟩ := lent_admits (by decide +kernel)
  have hran : Output.ofRun {} (((Lease.grant {} [] 0).prepare []).runLine
      (Text.trim "echo a\\ ")) = .ok ⟨"a\n", [], 0, false, false⟩ := by
    decide +kernel
  refine ⟨hadmits, ?_, by decide +kernel⟩
  rw [handle, respond_of_admits (Gateway.sends_standard _ _) hadmits]
  exact congrArg (Except.map Response.ofOutput) hran

end Service

end PipedShell
