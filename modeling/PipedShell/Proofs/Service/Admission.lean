import PipedShell.Proofs.Service.Gateway

/-!
# Requests to run a line that are let through

A request to run a line comes to a shell only if it names a lease that is neither over nor left, and
if not too many requests were let through lately.  This file says what the service does with such a
request.

* `Service.Admits` — the request is one of these.
* `Output.ofRun` — what the response tells of a line that ran.
* `Sends.deliver_reply` — a response that says what was done is made of texts, integers and truth
  values, so it can be sent.
* `Sends.deliver_refusal` — so can one that refuses a request, unless it repeats what was given.
* **`Service.respond_of_admits`** — the service answers with what the line comes to on the shell of
  the lease, and keeps the shell as the line leaves it.
-/

namespace PipedShell

/-! ## Responses can be sent -/

lemma Reply.plain_data (reply : Reply) : reply.data.Plain := by
  cases reply with
  | healthy => exact .cons (.str _) .nil
  | created token lifetime => exact .cons (.str _) (.cons (.int _) .nil)
  | deleted => exact .cons (.str _) .nil
  | commands specs =>
      refine .cons (.arr fun item hmem => ?_) .nil
      obtain ⟨spec, -, rfl⟩ := List.mem_map.1 hmem
      exact .cons (.str _) (.cons (.str _) (.cons (.str _) .nil))
  | ran output =>
      exact .cons (.str _) <| .cons (.str _) <| .cons (.int _) <| .cons (.bool _) <|
        .cons (.bool _) .nil

/-- A refusal that repeats nothing of the request says nothing but texts. -/
lemma Refusal.plain_body {refusal : Refusal} (h : refusal.status ≠ 422) : refusal.body.Plain := by
  have henvelope : ∀ code message, (envelope code message []).Plain := fun code message =>
    .cons (.bool false) (.cons (.cons (.str code) (.cons (.str message) (.cons .nil .nil))) .nil)
  cases refusal with
  | invalidBody errors => exact absurd rfl h
  | noToken | unknownToken | expired | tooMany | terminated => exact henvelope _ _

namespace Gateway

variable {gateway : Gateway}

lemma Sends.send_of_plain (h : gateway.Sends) {response : Response}
    (hplain : ∀ body, response.body? = some body → body.Plain) :
    gateway.send response = .ok response := by
  have hsent : response.body?.bind gateway.sendingDefect? = none := by
    cases hbody : response.body? with
    | none => rfl
    | some body => exact h body (hplain body hbody)
  simp only [send, hsent]

/-- A response that says what was done can be sent. -/
lemma Sends.deliver_reply (h : gateway.Sends) (reply : Reply) :
    gateway.deliver (.ok (.ok reply)) = .ok (.of (.ok reply)) := by
  refine h.send_of_plain fun body hbody => ?_
  cases hbody
  exact .cons (.bool true) (.cons reply.plain_data .nil)

/-- A refusal that repeats nothing of the request can be sent. -/
lemma Sends.deliver_refusal (h : gateway.Sends) {refusal : Refusal}
    (hstatus : refusal.status ≠ 422) :
    gateway.deliver (.ok (.error refusal)) = .ok (.of (.error refusal)) := by
  refine h.send_of_plain fun body hbody => ?_
  cases hbody
  exact Refusal.plain_body hstatus

end Gateway

/-- The status of an answer; a request that breaks is not answered. -/
def Response.status? (answer : Except Fault Response) : Option Nat :=
  answer.toOption.map Response.status

namespace Gateway

variable {gateway : Gateway}

lemma Sends.status?_reply (h : gateway.Sends) (reply : Reply) :
    Response.status? (gateway.deliver (.ok (.ok reply))) = some 200 := by
  rw [h.deliver_reply]
  rfl

lemma Sends.status?_refusal (h : gateway.Sends) {refusal : Refusal}
    (hstatus : refusal.status ≠ 422) :
    Response.status? (gateway.deliver (.ok (.error refusal))) = some refusal.status := by
  rw [h.deliver_refusal hstatus]
  rfl

end Gateway

/-! ## Letting a request through -/

/-- What a response tells of a line by its outcome and what it wrote. -/
def Output.of (config : Config) (outcome : Outcome) (stdout stderr : Text) : Output where
  stdout := (truncate stdout config.maxOutputBytes).1
  stderr := (truncate stderr config.maxOutputBytes).1
  exitCode := outcome.code
  terminated := outcome.isTerminate
  truncated := (truncate stdout config.maxOutputBytes).2

/-- What a response tells of a line that ran, or why there is none. -/
def Output.ofRun (config : Config) (ran : Attempt Session Outcome) : Except Fault Output :=
  ran.1.map fun outcome => .of config outcome ran.2.stdout ran.2.stderr

/-- The response that tells of a line that ran. -/
def Response.ofOutput (output : Output) : Response := .of (.ok (.ran output))

/-- The order that a call asks to run, with the authorization it comes with. -/
def Gateway.order? (gateway : Gateway) (call : Call) : Option (Option Text × Order) :=
  match gateway.read call with
  | .ok (.run authorization order) => some (authorization, order)
  | _ => none

lemma Gateway.order?_eq_some_iff {gateway : Gateway} {call : Call} {authorization : Option Text}
    {order : Order} : gateway.order? call = some (authorization, order)
      ↔ gateway.read call = .ok (.run authorization order) := by
  rw [order?]
  split
  · simp_all
  · simp_all

lemma Gateway.readOrder_of_read {gateway : Gateway} {call : Call} {authorization : Option Text}
    {order : Order} (h : gateway.read call = .ok (.run authorization order)) :
    gateway.readOrder call = .ok order := by
  have hreads := gateway.reads call
  rw [h] at hreads
  cases hreads with
  | run body => exact body

namespace Lease

/-- The lease with a request noted that was let through. -/
def note (config : Config) (now : Int) (lease : Lease) : Lease :=
  { lease with lastSeenAt := now, admitted := lease.counted config now ++ [now] }

/-- Too few requests count to hold up another one. -/
def HasRoom (config : Config) (now : Int) (lease : Lease) : Prop :=
  ((lease.counted config now).length : Int) < config.rateMax

instance (config : Config) (now : Int) (lease : Lease) : Decidable (lease.HasRoom config now) :=
  inferInstanceAs (Decidable (_ < _))

lemma letThrough_of_hasRoom {config : Config} {now : Int} {lease : Lease}
    (h : lease.HasRoom config now) :
    (lease.touch now).letThrough config now = (true, lease.note config now) := by
  have hnot : ¬ ((lease.counted config now).length : Int) ≥ config.rateMax := Int.not_le.2 h
  exact if_neg hnot

lemma letThrough_of_not_hasRoom {config : Config} {now : Int} {lease : Lease}
    (h : ¬ lease.HasRoom config now) :
    (lease.touch now).letThrough config now
      = (false, { lease.touch now with admitted := lease.counted config now }) := by
  have hfull : ((lease.counted config now).length : Int) ≥ config.rateMax := Int.not_lt.1 h
  exact if_pos hfull

/-- The lease once a line has run: it keeps the shell, and notes if the shell was left. -/
def keep (ran : Attempt Session Outcome) (lease : Lease) : Lease :=
  { lease with shell := ran.2, terminated := ran.1.toOption.any Outcome.isTerminate }

lemma run_eq (config : Config) (order : Order) {lease : Lease} (h : lease.terminated = false) :
    let ran := (lease.prepare order.stdin).runLine order.command.trim
    lease.run config order = (Output.ofRun config ran, lease.keep ran) := by
  intro ran
  have hran : (lease.prepare order.stdin).runLine order.command.trim = ran := rfl
  rw [run, hran]
  rcases ran with ⟨fault | outcome, shell⟩ <;>
    simp [keep, Except.map, Except.toOption, h, Output.ofRun, Output.of]

end Lease

namespace Service

/-- The call asks to run a line on a lease, and nothing is in its way. -/
structure Admits (gateway : Gateway) (service : Service) (moment : Moment) (call : Call)
    (token : Text) (lease : Lease) (order : Order) : Prop where
  asks : ∃ authorization,
    gateway.read call = .ok (.run authorization order) ∧ bearerToken? authorization = some token
  found : service.find? token = some lease
  not_over : lease.isOver moment.now = false
  has_room : lease.HasRoom service.config moment.now
  not_left : lease.terminated = false

/-- The second lease under a token takes the place of the first one. -/
lemma put_put (token : Text) (lease other : Lease) (service : Service) :
    (service.put token lease).put token other = service.put token other := by
  simp [put, drop, List.filter_filter]

lemma runOrder_of_hasRoom (service : Service) {now : Int} {lease : Lease}
    (hroom : lease.HasRoom service.config now) (hleft : lease.terminated = false) (order : Order)
    (token : Text) :
    let ran := (lease.note service.config now).run service.config order
    runOrder now order token (lease.touch now) service
      = (ran.1.map fun output => .ok (.ran output), service.put token ran.2) := by
  have hnot : (lease.note service.config now).terminated = false := hleft
  simp only [runOrder, Lease.letThrough_of_hasRoom hroom, hnot]
  rcases (lease.note service.config now).run service.config order with ⟨fault | outcome, kept⟩ <;>
    rfl

/-- **A request that is let through runs its line**, without the blanks at its ends, on the shell of
the lease.  The response is what came of it, or there is none if the line is broken, and the lease
keeps the shell as the line leaves it. -/
theorem respond_of_admits {gateway : Gateway} (hsends : gateway.Sends) {service : Service}
    {moment : Moment} {call : Call} {token : Text} {lease : Lease} {order : Order}
    (h : service.Admits gateway moment call token lease order) :
    let ran := (lease.prepare order.stdin).runLine order.command.trim
    service.respond gateway moment call
      = ((Output.ofRun service.config ran).map Response.ofOutput,
          service.put token ((lease.note service.config moment.now).keep ran)) := by
  obtain ⟨⟨authorization, hread, htoken⟩, hfound, hover, hroom, hleft⟩ := h
  have hauthorize : service.authorize moment.now authorization
      = (.ok (token, lease.touch moment.now), service.put token (lease.touch moment.now)) := by
    simp [authorize, htoken, hfound, hover]
  have hconfig : (service.put token (lease.touch moment.now)).config = service.config := rfl
  have hnot : (lease.note service.config moment.now).terminated = false := hleft
  have hprepare : (lease.note service.config moment.now).prepare order.stdin
      = lease.prepare order.stdin := rfl
  have hrun := runOrder_of_hasRoom (service.put token (lease.touch moment.now)) hroom hleft order
    token
  simp only [hconfig, Lease.run_eq _ _ hnot, put_put, hprepare] at hrun
  simp only [respond, hread, perform, withLease, hauthorize, hrun]
  rcases (lease.prepare order.stdin).runLine order.command.trim with ⟨fault | outcome, shell⟩
  · rfl
  · simp only [Output.ofRun, Except.map, hsends.deliver_reply, Response.ofOutput]

/-! ## A service that lent one shell -/

/-- The request for a shell. -/
def grantCall : Call where
  method := "POST"
  path := "/session"

/-- A service that answered it. -/
def lent : Service := (({} : Service).handle ⟨0, "t"⟩ grantCall).2

/-- A request of the holder of the shell to run a line. -/
def orderCall (command : Text) : Call where
  method := "POST"
  path := "/terminal/exec"
  authorization := some "Bearer t"
  headers := [("content-type", "application/json")]
  body := "\x7b\"command\":\"" ++ command ++ "\"\x7d"

/-- A request of the holder of the shell to run a line, with a body that breaks off in the middle of
a character. -/
def brokenOffCall : Call := { orderCall [] with body := "\x00aaaa" }

lemma lent_admits {call : Call} {order : Order}
    (h : (Gateway.standard {}).order? call = some (some ("Bearer t" : Text), order)) :
    lent.Admits (.standard {}) ⟨0, "u"⟩ call "t" (.grant {} [] 0) order where
  asks := ⟨_, Gateway.order?_eq_some_iff.1 h, by decide +kernel⟩
  found := find?_put_self ..
  not_over := by decide
  has_room := by decide
  not_left := rfl

end Service

end PipedShell
