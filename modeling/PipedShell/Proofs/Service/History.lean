import PipedShell.Proofs.Builtin.Tame
import PipedShell.Proofs.Service.OneLease

/-!
# What a shell on loan remembers

A shell that the service lends runs one line after another for whoever holds its token.  Its
commands are the built-in ones and its streams are new for each line, so the only thing of an
earlier line that a later one can tell is its exit code, and only a blank line tells it.

* `Journal` — what the lines of each lease told, kept beside the service; `Service.enter` keeps it.
* `Service.Reached` — a service that answered any requests since it started, with its journal.
* `Lease.Sound` — the invariant of a lease: its shell is a new one but for what lies in its buffers,
  and the last code is that of the last line in the journal.  `Reached.sound` says that every
  request preserves it.
* **`run_history_independent`** — an order that two services let through is answered by both, and in
  the same way unless its line is blank.
-/

namespace PipedShell

/-! ## Blank orders and journals -/

/-- The line of the order has no tokens, and there is no fault in it. -/
def Order.IsBlank (config : Config) (order : Order) : Prop :=
  (order.command.trim.length : Int) ≤ config.maxInputChars ∧
    tokenize order.command.trim = ⟨[], none⟩

instance (config : Config) (order : Order) : Decidable (order.IsBlank config) :=
  inferInstanceAs (Decidable (_ ∧ _))

/-- What the lines told that ran on the lease of each token, the last one first.  Blank lines are
left out. -/
def Journal : Type := Text → List Output

namespace Journal

/-- With one more line. -/
def add (token : Text) (output : Output) (journal : Journal) : Journal :=
  fun other => if other = token then output :: journal other else journal other

/-- With no line of a token. -/
def reset (token : Text) (journal : Journal) : Journal :=
  fun other => if other = token then [] else journal other

/-- The exit code of the last line of a token, zero when there is none. -/
def lastExit (token : Text) (journal : Journal) : Int :=
  ((journal token).head?.map Output.exitCode).getD 0

lemma add_of_ne {token other : Text} (h : other ≠ token) (output : Output) (journal : Journal) :
    journal.add token output other = journal other := if_neg h

lemma lastExit_add (token : Text) (output : Output) (journal : Journal) :
    (journal.add token output).lastExit token = output.exitCode := by
  simp [lastExit, add]

lemma reset_of_ne {token other : Text} (h : other ≠ token) (journal : Journal) :
    journal.reset token other = journal other := if_neg h

lemma lastExit_reset (token : Text) (journal : Journal) :
    (journal.reset token).lastExit token = 0 := by
  simp [lastExit, reset]

end Journal

namespace Service

/-- The journal after a request. -/
def enter (gateway : Gateway) (moment : Moment) (call : Call) (service : Service)
    (journal : Journal) : Journal :=
  match gateway.read call with
  | .ok (.create _) => journal.reset moment.token
  | .ok (.run authorization order) =>
    match bearerToken? authorization,
        (service.perform moment (.run authorization order)).1 with
    | some token, .ok (.ok (.ran output)) =>
      if order.IsBlank service.config then journal else journal.add token output
    | _, _ => journal
  | _ => journal

/-- A service with given settings that answered any requests which came through a gateway, and its
journal. -/
inductive Reached (gateway : Gateway) (config : Config) : Service → Journal → Prop
  | start : Reached gateway config { config } fun _ => []
  | handled {service : Service} {journal : Journal} (moment : Moment) (call : Call)
      (earlier : Reached gateway config service journal) :
      Reached gateway config (service.respond gateway moment call).2
        (service.enter gateway moment call journal)

end Service

/-! ## The shell of a lease -/

namespace Lease

/-- The shell is a new one but for what lies in its buffers and for the code of the last line. -/
structure Sound (config : Config) (code : Int) (lease : Lease) : Prop where
  keeps : (Session.start config Builtin.commands (none, none) []).Keeps lease.shell
  code : lease.shell.lastCode = code

variable {config : Config} {code : Int} {lease : Lease}

lemma Sound.of_shell {other : Lease} (h : lease.Sound config code)
    (hshell : other.shell = lease.shell) : other.Sound config code := by
  constructor <;> rw [hshell]
  · exact h.keeps
  · exact h.code

lemma sound_grant (config : Config) (client : List (Text × Json)) (now : Int) :
    (grant config client now).Sound config 0 := ⟨.refl _, rfl⟩

/-- The next line finds a new shell. -/
lemma Sound.agrees_prepare (h : lease.Sound config code) (stdin : Text) :
    (Session.start config Builtin.commands (none, none) stdin).Agrees (lease.prepare stdin) where
  others := by
    rw [prepare, h.keeps.others]
    rfl
  buffers := h.keeps.buffers

/-- A blank order is one with a blank line for the shell. -/
lemma isBlank_start_iff (config : Config) (order : Order) :
    (Session.start config Builtin.commands (none, none) order.stdin).IsBlank order.command.trim
      ↔ order.IsBlank config := by
  constructor
  · rintro ⟨hfits, hquoted, hblank⟩
    exact ⟨hfits, by rw [← hquoted, ← hblank]⟩
  · rintro ⟨hfits, htokens⟩
    exact ⟨hfits, by rw [htokens], by rw [htokens]⟩

/-- A blank order gives the code of the last line. -/
lemma Sound.answers_of_isBlank (h : lease.Sound config code) {order : Order}
    (hblank : order.IsBlank config) :
    (lease.prepare order.stdin).Answers order.command.trim (.proceed code) [] [] := by
  have hstart := (isBlank_start_iff config order).2 hblank
  have hisblank := (h.agrees_prepare order.stdin).isBlank hstart
  have hanswers := Session.answers_of_isBlank hisblank
  have hcode : (lease.prepare order.stdin).lastCode = code := h.code
  rwa [hcode] at hanswers

/-- Any other order has one answer, whatever lines the shell ran before. -/
lemma exists_answers (config : Config) {order : Order} (hblank : ¬ order.IsBlank config) :
    ∃ outcome stdout stderr, ∀ (lease : Lease) (code : Int), lease.Sound config code →
      (lease.prepare order.stdin).Answers order.command.trim outcome stdout stderr := by
  have hsteady := Builtin.steady_start config order.stdin
  obtain ⟨outcome, stdout, stderr, hanswers⟩ :=
    Session.exists_answers hsteady fun h => hblank ((isBlank_start_iff config order).1 h)
  exact ⟨outcome, stdout, stderr, fun lease code h => hanswers _ (h.agrees_prepare order.stdin)⟩

end Lease

lemma Session.Answers.ofRun_eq {session : Session} {line : Text} {outcome : Outcome}
    {stdout stderr : Text} (h : session.Answers line outcome stdout stderr) (config : Config) :
    Output.ofRun config (session.runLine line) = .ok (.of config outcome stdout stderr) := by
  simp only [Output.ofRun, h.ends, h.writes, h.complains, Except.map]

/-- The lease of a line that ran is sound again, with the code of that line. -/
lemma Lease.Sound.keep {config : Config} {code : Int} {lease : Lease}
    (h : lease.Sound config code) {stdin line : Text} {outcome : Outcome} {stdout stderr : Text}
    (hanswers : (lease.prepare stdin).Answers line outcome stdout stderr) (noted : Lease) :
    (noted.keep ((lease.prepare stdin).runLine line)).Sound config outcome.code where
  keeps := by
    have hstart : (Session.start config Builtin.commands (none, none) []).Keeps
        (Session.start config Builtin.commands (none, none) stdin) := ⟨rfl, fun _ => rfl⟩
    exact hstart.trans ((h.agrees_prepare stdin).keeps.trans hanswers.keeps)
  code := hanswers.code

/-! ## Every request keeps the leases sound -/

namespace Lease

variable {config : Config} {now : Int} {code : Int} {lease kept : Lease} {order : Order}

/-- Only a line changes the shell of a lease. -/
lemma shell_of_serve {act : Act} (hother : ∀ authorization order, act ≠ .run authorization order)
    (hkept : (lease.serve config now act).2 = some kept) : kept.shell = lease.shell := by
  cases act with
  | run authorization order => exact absurd rfl (hother authorization order)
  | delete authorization => cases hkept
  | health | create client | commands authorization =>
      cases hkept
      rfl

/-- A request to run a line leaves the lease sound, with the code of its line unless that is blank
or was not run. -/
lemma Sound.serves {served : Attempt (Option Lease) (Except Refusal Reply)}
    (h : lease.Sound config code) (hserves : Serves config now order lease served) :
    ∃ kept, served.2 = some kept ∧
      ((∃ refusal, served.1 = .ok (.error refusal)) ∧ kept.Sound config code ∨
        ∃ output, served.1 = .ok (.ok (.ran output)) ∧
          kept.Sound config (if order.IsBlank config then code else output.exitCode)) := by
  cases hserves with
  | tooMany _ | left _ _ => exact ⟨_, rfl, .inl ⟨⟨_, rfl⟩, h.of_shell rfl⟩⟩
  | ran _ _ =>
      refine ⟨_, rfl, .inr ?_⟩
      by_cases hblank : order.IsBlank config
      · have hanswers := h.answers_of_isBlank hblank
        simp only [hanswers.ofRun_eq, if_pos hblank]
        exact ⟨_, rfl, h.keep hanswers _⟩
      · obtain ⟨outcome, stdout, stderr, hall⟩ := exists_answers config hblank
        have hanswers := hall lease code h
        simp only [hanswers.ofRun_eq, if_neg hblank]
        exact ⟨_, rfl, h.keep hanswers _⟩

end Lease

namespace Service

/-- The settings are the given ones, and all leases are sound. -/
structure Sound (config : Config) (service : Service) (journal : Journal) : Prop where
  settings : service.config = config
  leases : ∀ token lease, service.find? token = some lease →
    lease.Sound config (journal.lastExit token)

variable {gateway : Gateway} {config : Config} {service : Service} {journal : Journal}
  {token : Text} {lease : Lease}

/-- A line is entered in the journal of its own lease only. -/
lemma enter_of_ne {moment : Moment} {call : Call} {authorization : Option Text} {order : Order}
    (hact : gateway.read call = .ok (.run authorization order))
    (h : bearerToken? authorization ≠ some token) (journal : Journal) :
    service.enter gateway moment call journal token = journal token := by
  simp only [enter, hact]
  cases hbearer : bearerToken? authorization with
  | none => rfl
  | some named =>
      have hne : token ≠ named := fun heq => h (heq ▸ hbearer)
      rcases (service.perform moment (.run authorization order)).1 with fault | refusal | reply
      · rfl
      · rfl
      · cases reply with
        | ran output =>
            simp only
            split_ifs
            · rfl
            · exact Journal.add_of_ne hne output journal
        | healthy | created _ _ | deleted | commands _ => rfl

/-- **Every request keeps the leases sound**, one case for each thing that a call can ask for. -/
lemma Sound.respond (h : service.Sound config journal) (gateway : Gateway) (moment : Moment)
    (call : Call) :
    (service.respond gateway moment call).2.Sound config
      (service.enter gateway moment call journal) where
  settings := (config_respond gateway moment call service).trans h.settings
  leases := by
    intro token kept hkept
    rw [find?_respond, leaseAfter, h.settings] at hkept
    cases hact : gateway.read call with
    | error rejection =>
        simp only [hact] at hkept
        simp only [enter, hact]
        exact h.leases token kept hkept
    | ok act =>
        cases act with
        | create client =>
            simp only [hact] at hkept
            simp only [enter, hact]
            split_ifs at hkept with heq
            · cases hkept
              rw [← heq, Journal.lastExit_reset]
              exact Lease.sound_grant config client moment.now
            · rw [Journal.lastExit, Journal.reset_of_ne (Ne.symm heq)]
              exact h.leases token kept hkept
        | health | delete authorization | commands authorization =>
            simp only [hact] at hkept
            simp only [enter, hact]
            split_ifs at hkept
            · obtain ⟨lease, hfound, hserve⟩ := Lease.exists_of_serve? hkept
              rw [hserve] at hkept
              exact (h.leases token lease hfound).of_shell
                (Lease.shell_of_serve (by simp) hkept)
            · exact h.leases token kept hkept
        | run authorization order =>
            simp only [hact] at hkept
            split_ifs at hkept with htoken
            · obtain ⟨lease, hfound, hserve⟩ := Lease.exists_of_serve? hkept
              have hreply := (@gives_perform service moment token _ htoken).reply
              rw [h.settings, hserve] at hreply
              obtain ⟨left, hleft, hserved⟩ := (h.leases token lease hfound).serves
                (Lease.serves_run config moment.now lease authorization order)
              rw [hserve, hleft] at hkept
              cases hkept
              have hbearer : bearerToken? authorization = some token := htoken
              rcases hserved with ⟨⟨refusal, hrefused⟩, hkept⟩ | ⟨output, hran, hkept⟩
              · simp only [enter, hact, hbearer, hreply, hrefused]
                exact hkept
              · simp only [enter, hact, hbearer, hreply, hran, h.settings]
                split_ifs at hkept ⊢
                · exact hkept
                · rwa [Journal.lastExit_add]
            · rw [Journal.lastExit, enter_of_ne hact htoken]
              exact h.leases token kept hkept

lemma Reached.sound (h : Reached gateway config service journal) :
    service.Sound config journal := by
  induction h with
  | start =>
      constructor
      · rfl
      · intro token lease hfound
        simp [find?] at hfound
  | handled moment call _ ih => exact ih.respond gateway moment call

/-! ## Two histories -/

lemma respond_of_answers (hsends : gateway.Sends) {moment : Moment} {call : Call} {order : Order}
    {outcome : Outcome} {stdout stderr : Text}
    (h : service.Admits gateway moment call token lease order)
    (hanswers : (lease.prepare order.stdin).Answers order.command.trim outcome stdout stderr) :
    (service.respond gateway moment call).1
      = .ok (.ofOutput (.of service.config outcome stdout stderr)) := by
  rw [respond_of_admits hsends h]
  exact congrArg (Except.map Response.ofOutput) (hanswers.ofRun_eq service.config)

lemma truncate_nil {limit : Int} (h : 0 ≤ limit) : truncate [] limit = ([], false) := by
  have hfits : ((Utf8.encode []).length : Int) ≤ limit := by
    simp only [Utf8.encode, List.flatMap_nil, List.length_nil]
    omega
  exact if_pos hfits

/-- **What a shell ran before does not show.**  Take two services that answered any requests, and an
order that both let through, for whatever leases.  Both run it and tell what it came to.  They tell
the same, unless the line of the order is blank; then each of them tells nothing but the exit code
of the last line before it that was not blank, or zero if there was none.  The limit on what a
response tells is not negative, since no setting that counts anything is. -/
theorem run_history_independent {gateway : Gateway} (hsends : gateway.Sends) {config : Config}
    (hbytes : 0 ≤ config.maxOutputBytes)
    {service other : Service} {journal otherJournal : Journal}
    (hreached : Reached gateway config service journal)
    (hother : Reached gateway config other otherJournal)
    {moment otherMoment : Moment} {call otherCall : Call} {token otherToken : Text}
    {lease otherLease : Lease} {order : Order}
    (hadmits : service.Admits gateway moment call token lease order)
    (hotherAdmits : other.Admits gateway otherMoment otherCall otherToken otherLease order) :
    ∃ output otherOutput,
      (service.respond gateway moment call).1 = .ok (.ofOutput output) ∧
      (other.respond gateway otherMoment otherCall).1 = .ok (.ofOutput otherOutput) ∧
      (¬ order.IsBlank config → otherOutput = output) ∧
      (order.IsBlank config →
        output = ⟨[], [], journal.lastExit token, false, false⟩ ∧
        otherOutput = ⟨[], [], otherJournal.lastExit otherToken, false, false⟩) := by
  have hsound := hreached.sound
  have hotherSound := hother.sound
  have hlease := hsound.leases token lease hadmits.found
  have hotherLease := hotherSound.leases otherToken otherLease hotherAdmits.found
  by_cases hblank : order.IsBlank config
  · have hnothing := truncate_nil hbytes
    have htold : ∀ code, Output.of config (.proceed code) [] [] = ⟨[], [], code, false, false⟩ := by
      intro code
      simp only [Output.of, hnothing, Outcome.code, Outcome.isTerminate]
    refine ⟨_, _, respond_of_answers hsends hadmits (hlease.answers_of_isBlank hblank),
      respond_of_answers hsends hotherAdmits (hotherLease.answers_of_isBlank hblank),
      fun hnot => absurd hblank hnot, fun _ => ?_⟩
    rw [hsound.settings, hotherSound.settings]
    exact ⟨htold _, htold _⟩
  · obtain ⟨outcome, stdout, stderr, hanswers⟩ := Lease.exists_answers config hblank
    refine ⟨_, _, respond_of_answers hsends hadmits (hanswers lease _ hlease),
      respond_of_answers hsends hotherAdmits (hanswers otherLease _ hotherLease), fun _ => ?_,
      fun h => absurd h hblank⟩
    rw [hsound.settings, hotherSound.settings]

/-- The service after the shell it lent has run a line that leaves text in a buffer and fails. -/
def used : Service := (lent.handle ⟨0, "u"⟩ (orderCall "seq 3 | false")).2

/-- Its lease. -/
def usedLease : Lease :=
  ((Lease.grant {} [] 0).note {} 0).keep
    (((Lease.grant {} [] 0).prepare []).runLine (Text.trim "seq 3 | false"))

lemma used_admits {call : Call} {order : Order}
    (h : (Gateway.standard {}).order? call = some (some ("Bearer t" : Text), order)) :
    used.Admits (.standard {}) ⟨1, "u"⟩ call "t" usedLease order where
  asks := ⟨_, Gateway.order?_eq_some_iff.1 h, by decide +kernel⟩
  found := by
    have hadmits : lent.Admits (.standard {}) ⟨0, "u"⟩ (orderCall "seq 3 | false") "t"
        (.grant {} [] 0) ⟨"seq 3 | false", []⟩ := lent_admits (by decide +kernel)
    rw [used, handle, respond_of_admits (Gateway.sends_standard _ _) hadmits]
    exact find?_put_self ..
  not_over := by decide +kernel
  has_room := by decide +kernel
  not_left := by decide +kernel

theorem run_history_independent_used :
    (used.handle ⟨1, "u"⟩ (orderCall "cat")).1 = (lent.handle ⟨0, "u"⟩ (orderCall "cat")).1 ∧
      (used.handle ⟨1, "u"⟩ (orderCall " ")).1 = .ok (.ofOutput ⟨[], [], 1, false, false⟩) ∧
      (lent.handle ⟨0, "u"⟩ (orderCall " ")).1 = .ok (.ofOutput ⟨[], [], 0, false, false⟩) := by
  have hsends := Gateway.sends_standard {} false
  have hlent : Reached (.standard {}) {} lent _ := .handled ⟨0, "t"⟩ grantCall .start
  have hused : Reached (.standard {}) {} used _ :=
    .handled ⟨0, "u"⟩ (orderCall "seq 3 | false") hlent
  have hcat : (Gateway.standard {}).order? (orderCall "cat")
      = some (some ("Bearer t" : Text), ⟨"cat", []⟩) := by
    decide +kernel
  have hblank : (Gateway.standard {}).order? (orderCall " ")
      = some (some ("Bearer t" : Text), ⟨" ", []⟩) := by
    decide +kernel
  constructor
  · obtain ⟨output, otherOutput, houtput, hother, hsame, -⟩ := run_history_independent hsends
      (by decide) hused hlent (used_admits hcat) (lent_admits hcat)
    rw [handle, handle, houtput, hother, hsame (by decide +kernel)]
  · obtain ⟨output, otherOutput, houtput, hother, -, htold⟩ := run_history_independent hsends
      (by decide) hused hlent (used_admits hblank) (lent_admits hblank)
    obtain ⟨rfl, rfl⟩ := htold (by decide +kernel)
    have hfailed : Journal.lastExit "t" (enter (.standard {}) ⟨0, "u"⟩ (orderCall "seq 3 | false")
        lent (enter (.standard {}) ⟨0, "t"⟩ grantCall {} fun _ => [])) = 1 := by
      decide +kernel
    have hnone : Journal.lastExit "t"
        (enter (.standard {}) ⟨0, "t"⟩ grantCall {} fun _ => []) = 0 := by
      decide +kernel
    rw [handle, handle, houtput, hother, hfailed, hnone]
    exact ⟨rfl, rfl⟩

end Service

end PipedShell
