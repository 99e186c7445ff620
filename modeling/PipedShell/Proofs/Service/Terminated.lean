import PipedShell.Proofs.Service.Isolation

/-!
# Shells that were left

A line can leave the shell that it runs on.  The response says so, and from then on the lease is
good for nothing but listing the commands and being given back: every request to run a line is
refused before the shell is looked at.

* `Response.tellsLeft` — a response says that the shell was left.
* `Service.exists_admits` — the line of a response ran on a lease that admitted it.
* `Service.Left` — the invariant of a lease whose shell was left; `Left.respond` says that every
  request preserves it.
* `Service.Aftermath` — how a request is served that bears the token of such a lease.
* **`termination_absorbing`** — a response says that the shell was left exactly if its own line did
  it, and all that comes after is such an aftermath.
-/

namespace PipedShell

/-- A refusal has no data. -/
lemma Refusal.data_eq_none (refusal : Refusal) : refusal.body.member? "data" = none := by
  have henvelope : ∀ code message details,
      (envelope code message details).member? "data" = none := fun _ _ _ => rfl
  cases refusal <;> exact henvelope _ _ _

namespace Response

/-- A member of the data of a response. -/
def datum? (name : Text) (response : Response) : Option Json :=
  (response.body?.bind (Json.member? "data")).bind (Json.member? name)

/-- The answer says that the shell was left. -/
def tellsLeft : Except Fault Response → Bool
  | .ok response =>
    match response.datum? "terminated" with
    | some (.bool left) => left
    | _ => false
  | .error _ => false

lemma IsDetail.tellsLeft {response : Response} (h : response.IsDetail) :
    tellsLeft (.ok response) = false := by
  have hnone : response.datum? "terminated" = none := by
    rcases h with hbody | ⟨detail, hbody⟩
    · simp only [datum?, hbody, Option.bind_none]
    · rw [datum?, hbody]
      rfl
  simp only [Response.tellsLeft, hnone]

end Response

namespace Gateway

variable {gateway : Gateway}

lemma eq_of_send {response sent : Response} (h : gateway.send response = .ok sent) :
    sent = response := by
  simp only [send] at h
  split at h <;> cases h
  rfl

lemma tellsLeft_refusal (gateway : Gateway) (refusal : Refusal) :
    Response.tellsLeft (gateway.deliver (.ok (.error refusal))) = false := by
  cases hsent : gateway.deliver (.ok (.error refusal)) with
  | error fault => rfl
  | ok response =>
      cases eq_of_send hsent
      simp only [Response.tellsLeft, Response.datum?, Response.of, Option.bind_some,
        refusal.data_eq_none, Option.bind_none]

/-- Only the answer to a line says that the shell was left. -/
lemma Sends.exists_ran_of_tellsLeft (h : gateway.Sends)
    {result : Except Fault (Except Refusal Reply)}
    (htells : Response.tellsLeft (gateway.deliver result) = true) :
    ∃ output, result = .ok (.ok (.ran output)) ∧ output.terminated = true := by
  rcases result with fault | refusal | reply
  · cases htells
  · rw [tellsLeft_refusal] at htells
    cases htells
  · rw [h.deliver_reply] at htells
    cases reply with
    | ran output => exact ⟨output, rfl, htells⟩
    | healthy | created token lifetime | deleted | commands specs => cases htells

/-- What the framework answers on its own, and what the service answers to a body that does not fit,
does not say that the shell was left. -/
lemma AnswersPlainly.tellsLeft_reject (h : gateway.AnswersPlainly) {call : Call}
    {rejection : Rejection} (hread : gateway.read call = .error rejection) :
    Response.tellsLeft (gateway.reject rejection) = false := by
  cases rejection with
  | misfits errors => exact gateway.tellsLeft_refusal (.invalidBody errors)
  | answered response =>
      have hreads := gateway.reads call
      rw [hread] at hreads
      refine Response.IsDetail.tellsLeft ?_
      cases hreads with
      | nowhere own => exact h.route call response own
      | noClient body => exact h.client call response body
      | noOrder body => exact (h.order call response body).2

/-- A request for an operation comes to it. -/
lemma Routes.read_of_isFor (h : gateway.Routes) {call : Call} {route : Route}
    (hfor : call.IsFor route) : gateway.route call = .ok route := (h call route).2 hfor

lemma Routes.read_run (h : gateway.Routes) {call : Call} (hfor : call.IsFor .run) :
    gateway.read call = (gateway.readOrder call).map (.run call.authorization) := by
  simp only [read, h.read_of_isFor hfor]

lemma bears_unique {call : Call} {token other : Text} (h : gateway.bears token call = true)
    (h' : gateway.bears other call = true) : other = token := by
  have htoken := (bears_iff.1 h).2
  rw [(bears_iff.1 h').2] at htoken
  exact Option.some.inj htoken

end Gateway

/-- A response that says that the shell was left tells with which code. -/
lemma Output.leaves_of_ofRun {config : Config} {ran : Attempt Session Outcome} {output : Output}
    (h : ofRun config ran = .ok output) (hleft : output.terminated = true) :
    ran.1 = .ok (.terminate output.exitCode) := by
  rcases ran with ⟨fault | outcome, shell⟩
  · cases h
  · cases h
    cases outcome with
    | proceed code => cases hleft
    | terminate code => rfl

namespace Lease

variable {config : Config} {now : Int} {lease : Lease}

/-- The line of an order leaves the shell with a code. -/
def Leaves (order : Order) (code : Int) (lease : Lease) : Prop :=
  ((lease.prepare order.stdin).runLine order.command.trim).1 = .ok (.terminate code)

/-- Why a request to run a line is refused after the shell was left. -/
def refusal (config : Config) (now : Int) (lease : Lease) : Refusal :=
  if lease.isOver now then .expired
  else if lease.HasRoom config now then .terminated
  else .tooMany

/-- The shell that was left is neither used nor changed, whatever shell it is. -/
lemma serve?_of_terminated (h : lease.terminated = true) (authorization : Option Text)
    (order : Order) :
    (serve? config now (.run authorization order) (some lease)).1
      = .ok (.error (lease.refusal config now)) := by
  have hserves := serves_run config now lease authorization order
  rw [serve?, refusal]
  generalize lease.serve config now (.run authorization order) = served at hserves ⊢
  cases hserves with
  | tooMany hfull =>
      rw [if_neg hfull]
      split_ifs <;> rfl
  | left hroom _ =>
      rw [if_pos hroom]
      split_ifs <;> rfl
  | ran _ hnot =>
      rw [h] at hnot
      cases hnot

lemma serve_of_terminated (h : lease.terminated = true) {act : Act} {kept : Lease}
    (hkept : (lease.serve config now act).2 = some kept) :
    kept.terminated = true ∧ kept.shell = lease.shell := by
  cases act with
  | health | create client | commands authorization =>
      cases hkept
      exact ⟨h, rfl⟩
  | delete authorization => cases hkept
  | run authorization order =>
      have hserves := serves_run config now lease authorization order
      generalize lease.serve config now (.run authorization order) = served at hkept hserves
      cases hserves with
      | tooMany _ | left _ _ =>
          cases hkept
          exact ⟨h, rfl⟩
      | ran _ hnot =>
          rw [h] at hnot
          cases hnot

/-- Only a line that ran on a lease that is neither over nor left is answered by what it came to. -/
lemma ran_of_serve? {act : Act} {held : Option Lease} {output : Output}
    (h : (serve? config now act held).1 = .ok (.ok (.ran output))) :
    ∃ lease authorization order, held = some lease ∧ act = .run authorization order ∧
      lease.isOver now = false ∧ lease.HasRoom config now ∧ lease.terminated = false ∧
      Output.ofRun config ((lease.prepare order.stdin).runLine order.command.trim)
        = .ok output := by
  cases held with
  | none => cases h
  | some lease =>
      cases hover : lease.isOver now with
      | true =>
          rw [serve?, if_pos hover] at h
          cases h
      | false =>
          simp only [serve?, hover, Bool.false_eq_true, if_false] at h
          cases act with
          | health | create client | delete authorization | commands authorization => cases h
          | run authorization order =>
              have hserves := serves_run config now lease authorization order
              generalize lease.serve config now (.run authorization order) = served at h hserves
              cases hserves with
              | tooMany _ | left _ _ => cases h
              | ran hroom hnot =>
                  refine ⟨lease, authorization, order, rfl, rfl, hover, hroom, hnot, ?_⟩
                  generalize Output.ofRun config _ = ran at h ⊢
                  rcases ran with fault | told <;> cases h
                  rfl

end Lease

namespace Service

variable {gateway : Gateway} {service : Service} {moment : Moment} {call : Call} {token : Text}
  {shell : Session}

/-! ## The line that leaves the shell -/

/-- A line of which an answer tells ran on a lease that admitted it. -/
lemma exists_admits {act : Act} {output : Output} (hact : gateway.read call = .ok act)
    (h : (service.perform moment act).1 = .ok (.ok (.ran output))) :
    ∃ token lease order, service.Admits gateway moment call token lease order ∧
      Output.ofRun service.config ((lease.prepare order.stdin).runLine order.command.trim)
        = .ok output := by
  cases htoken : act.token? with
  | none =>
      by_cases hneeds : act.authorization? = none
      · cases act with
        | health | create client => cases h
        | delete authorization | commands authorization | run authorization order => cases hneeds
      · rw [perform_of_token_none hneeds htoken] at h
        cases h
  | some token =>
      rw [(gives_perform htoken).reply] at h
      obtain ⟨lease, authorization, order, hfound, rfl, hover, hroom, hleft, hran⟩ :=
        Lease.ran_of_serve? h
      exact ⟨token, lease, order, ⟨⟨authorization, hact, htoken⟩, hfound, hover, hroom, hleft⟩,
        hran⟩

lemma Admits.bears {lease : Lease} {order : Order}
    (h : service.Admits gateway moment call token lease order) :
    gateway.bears token call = true := by
  obtain ⟨authorization, hact, htoken⟩ := h.asks
  exact (Gateway.token?_eq_some_iff hact (Option.some_ne_none _)).1 htoken

/-- An answer says that the shell was left exactly if its own line did it. -/
lemma tellsLeft_iff (hsends : gateway.Sends) (hplain : gateway.AnswersPlainly)
    (hbears : gateway.bears token call = true) :
    Response.tellsLeft (service.respond gateway moment call).1 = true ↔
      ∃ lease order code, service.Admits gateway moment call token lease order ∧
        lease.Leaves order code := by
  constructor
  · intro htells
    cases hact : gateway.read call with
    | error rejection =>
        simp only [respond, hact, hplain.tellsLeft_reject hact] at htells
        cases htells
    | ok act =>
        simp only [respond, hact] at htells
        obtain ⟨output, hran, hterminated⟩ := hsends.exists_ran_of_tellsLeft htells
        obtain ⟨other, lease, order, hadmits, houtput⟩ := exists_admits hact hran
        obtain rfl : other = token := Gateway.bears_unique hbears hadmits.bears
        exact ⟨lease, order, output.exitCode, hadmits,
          Output.leaves_of_ofRun houtput hterminated⟩
  · rintro ⟨lease, order, code, hadmits, hleaves⟩
    rw [respond_of_admits hsends hadmits, Output.ofRun, hleaves]
    rfl

/-! ## After the shell was left -/

/-- The lease of the token, if the service still has it, holds a given shell that was left. -/
def Left (token : Text) (shell : Session) (service : Service) : Prop :=
  ∀ lease, service.find? token = some lease → lease.terminated = true ∧ lease.shell = shell

lemma left_of_leaves (hsends : gateway.Sends) {lease : Lease} {order : Order} {code : Int}
    (h : service.Admits gateway moment call token lease order) (hleaves : lease.Leaves order code) :
    Left token ((lease.prepare order.stdin).runLine order.command.trim).2
      (service.respond gateway moment call).2 := by
  intro kept hkept
  rw [respond_of_admits hsends h, find?_put_self] at hkept
  cases hkept
  refine ⟨?_, rfl⟩
  rw [Lease.keep, hleaves]
  rfl

namespace Left

variable {requests : List (Moment × Call)}

/-- **Nothing brings the shell back.** -/
lemma respond (h : Left token shell service)
    (hfresh : gateway.isGrant call = true → moment.token ≠ token) :
    Left token shell (service.respond gateway moment call).2 := by
  intro kept hkept
  rw [find?_respond, leaseAfter] at hkept
  split at hkept
  · next client hact =>
      rw [if_neg (hfresh (Gateway.isGrant_iff.2 ⟨client, hact⟩))] at hkept
      exact h kept hkept
  · split_ifs at hkept
    · obtain ⟨lease, hfound, hserve⟩ := Lease.exists_of_serve? hkept
      obtain ⟨hleft, hshell⟩ := h lease hfound
      obtain ⟨hstill, hsame⟩ := Lease.serve_of_terminated hleft (hserve ▸ hkept)
      exact ⟨hstill, hsame.trans hshell⟩
    · exact h kept hkept
  · exact h kept hkept

lemma after (h : Left token shell service)
    (hfresh : ∀ request ∈ requests, gateway.isGrant request.2 = true → request.1.token ≠ token) :
    Left token shell (service.after gateway requests) := by
  induction requests generalizing service with
  | nil => exact h
  | cons request requests ih =>
      obtain ⟨hfirst, hlater⟩ := List.forall_mem_cons.1 hfresh
      exact ih (h.respond hfirst) hlater

lemma quiet (h : Left token shell service) (hsends : gateway.Sends)
    (hplain : gateway.AnswersPlainly) (hbears : gateway.bears token call = true) :
    Response.tellsLeft (service.respond gateway moment call).1 = false := by
  rw [← Bool.not_eq_true, tellsLeft_iff hsends hplain hbears]
  rintro ⟨lease, order, code, hadmits, -⟩
  have hleft := (h lease hadmits.found).1
  rw [hadmits.not_left] at hleft
  cases hleft

lemma answer {lease : Lease} {authorization : Option Text} {order : Order}
    (hfound : service.find? token = some lease) (hleft : lease.terminated = true)
    (hact : gateway.read call = .ok (.run authorization order))
    (hbears : gateway.bears token call = true) :
    (service.respond gateway moment call).1
      = gateway.deliver (.ok (.error (lease.refusal service.config moment.now))) := by
  have htoken := (Gateway.token?_eq_some_iff hact (Option.some_ne_none _)).2 hbears
  rw [respond_of_token hact htoken, hfound, Lease.serve?_of_terminated hleft]

end Left

/-- The answer to a request that asks to run a line is that nothing is run. -/
inductive Refuses (gateway : Gateway) (call : Call) : Except Fault Response → Prop
  /-- The framework cannot read the body, and answers on its own. -/
  | unread {response : Response} (unread : gateway.readOrder call = .error (.answered response))
      (bad_request : response.status = 400) : Refuses gateway call (.ok response)
  /-- The body does not fit, which makes the status 422.  What does not fit is repeated in the
  answer, and only such an answer may turn out not to be sendable. -/
  | invalid {errors : List Json} (misfits : gateway.readOrder call = .error (.misfits errors)) :
      Refuses gateway call (gateway.send (.of (.error (.invalidBody errors))))
  /-- The body is valid, and the request is refused for its token, for the number of requests, or
  because the shell was left. -/
  | held {order : Order} {refusal : Refusal} (reads : gateway.readOrder call = .ok order)
      (status : refusal.status ∈ [401, 409, 429]) :
      Refuses gateway call (.ok (.of (.error refusal)))

lemma Left.refuses (h : Left token shell service) (hroutes : gateway.Routes)
    (hplain : gateway.AnswersPlainly) (hsends : gateway.Sends)
    (hbears : gateway.bears token call = true) (hfor : call.IsFor .run) :
    Refuses gateway call (service.respond gateway moment call).1 := by
  have hact := hroutes.read_run hfor
  cases hread : gateway.readOrder call with
  | error rejection =>
      rw [hread] at hact
      simp only [Service.respond, hact, Except.map]
      cases rejection with
      | answered response => exact .unread hread (hplain.order call response hread).1
      | misfits errors => exact .invalid hread
  | ok order =>
      rw [hread] at hact
      cases hfound : service.find? token with
      | none =>
          have htoken := (Gateway.token?_eq_some_iff hact (Option.some_ne_none _)).2 hbears
          rw [respond_of_token hact htoken, hfound, Lease.serve?,
            hsends.deliver_refusal (by decide)]
          exact .held hread (by decide)
      | some lease =>
          have hstatus : (lease.refusal service.config moment.now).status ∈ [401, 409, 429] := by
            rw [Lease.refusal]
            split_ifs <;> decide
          have hnot : (lease.refusal service.config moment.now).status ≠ 422 := by
            intro heq
            rw [heq] at hstatus
            exact absurd hstatus (by decide)
          rw [answer hfound (h lease hfound).1 hact hbears, hsends.deliver_refusal hnot]
          exact .held hread hstatus

/-- How a request is served that bears the token of a lease whose shell was left. -/
structure Aftermath (gateway : Gateway) (token : Text) (shell : Session) (moment : Moment)
    (call : Call) (service : Service) : Prop where
  /-- It runs no line. -/
  refused : call.IsFor .run → Refuses gateway call (service.respond gateway moment call).1
  /-- It is answered as it would be with any other shell and commands, which would stay as they
  are. -/
  unused : call.IsFor .run → ∀ lease other, service.find? token = some lease →
    ((service.put token { lease with shell := other }).respond gateway moment call).1
        = (service.respond gateway moment call).1 ∧
      Left token other
        ((service.put token { lease with shell := other }).respond gateway moment call).2
  /-- It leaves the shell as it is. -/
  unchanged : Left token shell (service.respond gateway moment call).2
  /-- Its answer does not say that the shell was left. -/
  quiet : Response.tellsLeft (service.respond gateway moment call).1 = false
  /-- It can list the commands as long as the lease is not over. -/
  lists : call.IsFor .commands → ∀ lease, service.find? token = some lease →
    lease.isOver moment.now = false →
    (service.respond gateway moment call).1
      = .ok (.of (.ok (.commands (shell.commands.toList.map (·.spec)))))
  /-- It can give the lease back as long as that is not over. -/
  deletes : call.IsFor .delete → ∀ lease, service.find? token = some lease →
    lease.isOver moment.now = false →
    (service.respond gateway moment call).1 = .ok (.of (.ok .deleted)) ∧
      (service.respond gateway moment call).2.find? token = none

lemma Left.aftermath (h : Left token shell service) (hroutes : gateway.Routes)
    (hplain : gateway.AnswersPlainly) (hsends : gateway.Sends)
    (hbears : gateway.bears token call = true) :
    Aftermath gateway token shell moment call service where
  refused := h.refuses hroutes hplain hsends hbears
  unused := by
    intro hfor lease other hfound
    have hleft := (h lease hfound).1
    have hswapped := find?_put_self token { lease with shell := other } service
    constructor
    · have hact := hroutes.read_run hfor
      cases hread : gateway.readOrder call with
      | error rejection =>
          rw [hread] at hact
          simp only [Service.respond, hact, Except.map]
      | ok order =>
          rw [hread] at hact
          rw [answer hfound hleft hact hbears, answer hswapped hleft hact hbears]
          rfl
    · have hother : Left token other (service.put token { lease with shell := other }) := by
        intro kept hkept
        rw [hswapped] at hkept
        cases hkept
        exact ⟨hleft, rfl⟩
      exact hother.respond (by simp [(Gateway.bears_iff.1 hbears).1])
  unchanged := h.respond (by simp [(Gateway.bears_iff.1 hbears).1])
  quiet := h.quiet hsends hplain hbears
  lists := by
    intro hfor lease hfound hover
    have hact : gateway.read call = .ok (.commands call.authorization) := by
      simp only [Gateway.read, hroutes.read_of_isFor hfor]
    have htoken := (Gateway.token?_eq_some_iff hact (Option.some_ne_none _)).2 hbears
    rw [respond_of_token hact htoken, hfound, Lease.serve?, hover, ← (h lease hfound).2]
    exact hsends.deliver_reply _
  deletes := by
    intro hfor lease hfound hover
    have hact : gateway.read call = .ok (.delete call.authorization) := by
      simp only [Gateway.read, hroutes.read_of_isFor hfor]
    have htoken := (Gateway.token?_eq_some_iff hact (Option.some_ne_none _)).2 hbears
    constructor
    · rw [respond_of_token hact htoken, hfound, Lease.serve?, hover]
      exact hsends.deliver_reply _
    · rw [find?_respond_of_token hact htoken, hfound, Lease.serve?, hover]
      rfl

variable {requests : List (Moment × Call)}

lemma Left.countP_eq_zero (h : Left token shell service) (hsends : gateway.Sends)
    (hplain : gateway.AnswersPlainly)
    (hfresh : ∀ request ∈ requests, gateway.isGrant request.2 = true → request.1.token ≠ token) :
    (service.answersTo gateway token requests).countP Response.tellsLeft = 0 := by
  induction requests generalizing service with
  | nil => rfl
  | cons request requests ih =>
      obtain ⟨moment, call⟩ := request
      obtain ⟨hfirst, hlater⟩ := List.forall_mem_cons.1 hfresh
      rw [answersTo, List.countP_append, ih (h.respond hfirst) hlater]
      split_ifs with hbears
      · simp [h.quiet hsends hplain hbears]
      · rfl

/-- By induction on the requests: once a line left the shell, none of the others does. -/
lemma countP_tellsLeft_le_one (hsends : gateway.Sends) (hplain : gateway.AnswersPlainly)
    (hfresh : ∀ request ∈ requests, gateway.isGrant request.2 = true → request.1.token ≠ token)
    (service : Service) :
    (service.answersTo gateway token requests).countP Response.tellsLeft ≤ 1 := by
  induction requests generalizing service with
  | nil => exact Nat.zero_le 1
  | cons request requests ih =>
      obtain ⟨moment, call⟩ := request
      obtain ⟨-, hlater⟩ := List.forall_mem_cons.1 hfresh
      rw [answersTo, List.countP_append]
      by_cases htells : gateway.bears token call = true ∧
          Response.tellsLeft (service.respond gateway moment call).1 = true
      · obtain ⟨lease, order, code, hadmits, hleaves⟩ :=
          (tellsLeft_iff hsends hplain htells.1).1 htells.2
        have hleft := left_of_leaves hsends hadmits hleaves
        rw [hleft.countP_eq_zero hsends hplain hlater]
        simp [htells]
      · have hnone : (if gateway.bears token call = true
            then [(service.respond gateway moment call).1] else []).countP Response.tellsLeft
            = 0 := by
          split_ifs with hbears
          · simpa [hbears] using htells
          · rfl
        rw [hnone, Nat.zero_add]
        exact ih hlater _

/-- **Leaving the shell is final.**  Take any requests after a lease was granted under a token.  An
answer to a request that bears the token says that the shell was left exactly if the line of that
request left it, and then it tells the code.  At most one of the answers says so.  Every later
request that bears the token is served without the shell: it runs no line and changes nothing, and
can only list the commands or give the lease back, as long as the lease is not over. -/
theorem termination_absorbing {gateway : Gateway} (hroutes : gateway.Routes)
    (hplain : gateway.AnswersPlainly) (hsends : gateway.Sends) {token : Text}
    {requests : List (Moment × Call)}
    (hfresh : ∀ request ∈ requests, gateway.isGrant request.2 = true → request.1.token ≠ token)
    (service : Service) :
    (service.answersTo gateway token requests).countP Response.tellsLeft ≤ 1 ∧
    ∀ earlier moment call later, requests = earlier ++ (moment, call) :: later →
      gateway.bears token call = true →
      let before := service.after gateway earlier
      (Response.tellsLeft (before.respond gateway moment call).1 = true ↔
        ∃ lease order code, before.Admits gateway moment call token lease order ∧
          lease.Leaves order code) ∧
      ∀ lease order code, before.Admits gateway moment call token lease order →
        lease.Leaves order code →
        (∃ response, (before.respond gateway moment call).1 = .ok response ∧
          response.datum? "exitCode" = some (.int code)) ∧
        ∀ middle next again rest, later = middle ++ (next, again) :: rest →
          gateway.bears token again = true →
          Aftermath gateway token ((lease.prepare order.stdin).runLine order.command.trim).2 next
            again ((before.respond gateway moment call).2.after gateway middle) := by
  refine ⟨countP_tellsLeft_le_one hsends hplain hfresh service, ?_⟩
  rintro earlier moment call later rfl hbears before
  refine ⟨tellsLeft_iff hsends hplain hbears, fun lease order code hadmits hleaves => ⟨?_, ?_⟩⟩
  · rw [respond_of_admits hsends hadmits, Output.ofRun, hleaves]
    exact ⟨_, rfl, rfl⟩
  · rintro middle next again rest rfl hagain
    have hleft := left_of_leaves hsends hadmits hleaves
    refine (hleft.after ?_).aftermath hroutes hplain hsends hagain
    exact fun request hmem => hfresh request (by simp [hmem])

/-- The holder of a token leaves the shell and then asks to run a line. -/
def lastWords : List (Moment × Call) :=
  [(⟨0, "u"⟩, orderCall "exit 3"), (⟨1, "v"⟩, orderCall "true")]

theorem termination_absorbing_lastWords :
    (lent.answersTo (.standard {}) "t" lastWords).countP Response.tellsLeft ≤ 1 ∧
      (∃ response, (lent.handle ⟨0, "u"⟩ (orderCall "exit 3")).1 = .ok response ∧
        response.datum? "exitCode" = some (.int 3)) ∧
      ∃ shell, Aftermath (.standard {}) "t" shell ⟨1, "v"⟩ (orderCall "true")
        (lent.handle ⟨0, "u"⟩ (orderCall "exit 3")).2 := by
  have hfresh : ∀ request ∈ lastWords,
      (Gateway.standard {}).isGrant request.2 = true → request.1.token ≠ "t" := by
    decide +kernel
  have hadmits : lent.Admits (.standard {}) ⟨0, "u"⟩ (orderCall "exit 3") "t" (.grant {} [] 0)
      ⟨"exit 3", []⟩ := lent_admits (by decide +kernel)
  have hleaves : Lease.Leaves ⟨"exit 3", []⟩ 3 (.grant {} [] 0) := rfl
  obtain ⟨honce, hall⟩ := termination_absorbing (Gateway.routes_standard _ _)
    (Gateway.answersPlainly_standard _ _) (Gateway.sends_standard _ _) hfresh lent
  obtain ⟨-, hlast⟩ := hall [] _ _ _ rfl hadmits.bears
  obtain ⟨hcode, hafter⟩ := hlast _ _ 3 hadmits hleaves
  exact ⟨honce, hcode, _, hafter [] _ _ [] rfl (by decide +kernel)⟩

/-- A body that cannot be read is refused as such, whether the shell was left or not. -/
theorem unreadable_after_leaving :
    let left := lent.handle ⟨0, "u"⟩ (orderCall "exit")
    Response.tellsLeft left.1 = true ∧
      (Gateway.standard {}).bears "t" brokenOffCall = true ∧ brokenOffCall.IsFor .run ∧
      Response.status? (left.2.handle ⟨1, "v"⟩ brokenOffCall).1
        ∉ [some 401, some 409, some 422, some 429] := by
  have hadmits : lent.Admits (.standard {}) ⟨0, "u"⟩ (orderCall "exit") "t" (.grant {} [] 0)
      ⟨"exit", []⟩ := lent_admits (by decide +kernel)
  have hleaves : Lease.Leaves ⟨"exit", []⟩ 0 (.grant {} [] 0) := rfl
  have htells := (tellsLeft_iff (Gateway.sends_standard _ _)
    (Gateway.answersPlainly_standard _ _) hadmits.bears).2 ⟨_, _, 0, hadmits, hleaves⟩
  refine ⟨htells, by decide +kernel, by decide +kernel, ?_⟩
  decide +kernel

end Service

end PipedShell
