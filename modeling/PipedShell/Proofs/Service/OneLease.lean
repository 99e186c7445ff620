import PipedShell.Proofs.Service.Admission

/-!
# A request and one lease

All that the service knows are its settings, which never change, and its leases, and a request deals
with one lease at most: the one that it is granted, or the one whose token it bears.  So the life of
a lease can be followed without regard to the others.

* `Gateway.isGrant`, `Gateway.bears` — the request is granted a lease, or bears the token of one.
* `Gateway.IsApart` — the request has nothing to do with a token.
* `Lease.serve?` — what a request gets that bears the token of a lease, or of none, and what is left
  of the lease.
* `Lease.Serves` — the three ways to serve a request to run a line.
* `Service.gives_perform` — whatever needs a lease is served from it, and leaves all others alone.
* `Service.config_respond` — the settings never change.
* `Service.leaseAfter` — what a request makes of the lease of a token.
* **`Service.find?_respond`** — the lease of a token after a request is what the request makes of
  the one before.
* `Service.respond_congr` — requests that bear a token get the same answer wherever its lease is the
  same.
* `Service.after` — the service after requests one after another.
-/

namespace PipedShell

/-! ## Tokens of requests -/

/-- The authorization of what is asked for, if it needs a lease. -/
def Act.authorization? : Act → Option (Option Text)
  | .health | .create _ => none
  | .delete authorization | .commands authorization | .run authorization _ => some authorization

/-- The token of the lease that is needed for what is asked for. -/
def Act.token? (act : Act) : Option Text := act.authorization?.bind bearerToken?

namespace Gateway

variable {gateway : Gateway}

/-- The request is granted a lease. -/
def isGrant (gateway : Gateway) (call : Call) : Bool :=
  match gateway.read call with
  | .ok (.create _) => true
  | _ => false

/-- The request bears a token; nobody looks whether one that is granted a lease does. -/
def bears (gateway : Gateway) (token : Text) (call : Call) : Bool :=
  !gateway.isGrant call && bearerToken? call.authorization == some token

lemma isGrant_iff {call : Call} :
    gateway.isGrant call = true ↔ ∃ client, gateway.read call = .ok (.create client) := by
  rw [isGrant]
  split <;> simp_all

lemma bears_iff {token : Text} {call : Call} :
    gateway.bears token call = true ↔
      gateway.isGrant call = false ∧ bearerToken? call.authorization = some token := by
  simp [bears]

lemma authorization_of_read {call : Call} {act : Act} (hact : gateway.read call = .ok act)
    {authorization : Option Text} (h : act.authorization? = some authorization) :
    authorization = call.authorization := by
  have hreads := gateway.reads call
  rw [hact] at hreads
  cases hreads with
  | health | create _ => cases h
  | delete | commands | run _ =>
      cases h
      rfl

/-- A request that needs a lease bears the token of that lease. -/
lemma token?_eq_some_iff {call : Call} {act : Act} (hact : gateway.read call = .ok act)
    {token : Text} (hneeds : act.authorization? ≠ none) :
    act.token? = some token ↔ gateway.bears token call = true := by
  obtain ⟨authorization, hauthorization⟩ := Option.ne_none_iff_exists'.1 hneeds
  have hgrant : gateway.isGrant call = false := by
    rw [isGrant, hact]
    cases act <;> simp_all [Act.authorization?]
  rw [bears_iff, Act.token?, hauthorization, ← authorization_of_read hact hauthorization]
  simp [hgrant]

/-- The request has nothing to do with a token: it neither bears the token nor is granted a lease
under it. -/
def IsApart (gateway : Gateway) (token : Text) (request : Moment × Call) : Prop :=
  gateway.bears token request.2 = false ∧
    (gateway.isGrant request.2 = true → request.1.token ≠ token)

end Gateway

/-! ## What is left of a lease -/

namespace Lease

/-- What a request gets from the lease whose token it bears, and what is left of the lease. -/
def serve (config : Config) (now : Int) (lease : Lease) :
    Act → Attempt (Option Lease) (Except Refusal Reply)
  | .run _ order =>
    match (lease.touch now).letThrough config now with
    | (false, counted) => (.ok (.error .tooMany), some counted)
    | (true, noted) =>
      if noted.terminated then (.ok (.error .terminated), some noted)
      else
        let ran := noted.run config order
        (ran.1.map fun output => .ok (.ran output), some ran.2)
  | .commands _ =>
    (.ok (.ok (.commands (lease.shell.commands.toList.map (·.spec)))), some (lease.touch now))
  | .delete _ => (.ok (.ok .deleted), none)
  | .create _ | .health => (.ok (.ok .healthy), some lease)

/-- The same for the token of a lease that may be over, or of none. -/
def serve? (config : Config) (now : Int) (act : Act) :
    Option Lease → Attempt (Option Lease) (Except Refusal Reply)
  | none => (.ok (.error .unknownToken), none)
  | some lease =>
    if lease.isOver now then (.ok (.error .expired), none) else lease.serve config now act

variable {config : Config} {now : Int} {lease : Lease}

/-- Where something is left of a lease, it is left of one that was not over and was served. -/
lemma exists_of_serve? {act : Act} {held : Option Lease} {kept : Lease}
    (h : (serve? config now act held).2 = some kept) :
    ∃ lease, held = some lease ∧ serve? config now act held = lease.serve config now act := by
  cases held with
  | none => cases h
  | some lease =>
      rw [serve?] at h
      split_ifs at h with hover
      exact ⟨lease, rfl, if_neg hover⟩

/-- A request to run a line is one too many, or finds the shell left, or runs its line. -/
inductive Serves (config : Config) (now : Int) (order : Order) (lease : Lease) :
    Attempt (Option Lease) (Except Refusal Reply) → Prop
  | tooMany (full : ¬ lease.HasRoom config now) : Serves config now order lease
      (.ok (.error .tooMany), some { lease.touch now with admitted := lease.counted config now })
  | left (room : lease.HasRoom config now) (left : lease.terminated = true) :
      Serves config now order lease (.ok (.error .terminated), some (lease.note config now))
  | ran (room : lease.HasRoom config now) (not_left : lease.terminated = false) :
      Serves config now order lease
        ((Output.ofRun config ((lease.prepare order.stdin).runLine order.command.trim)).map
            fun output => .ok (.ran output),
          some ((lease.note config now).keep
            ((lease.prepare order.stdin).runLine order.command.trim)))

/-- **There is no fourth way to serve a request to run a line.** -/
lemma serves_run (config : Config) (now : Int) (lease : Lease) (authorization : Option Text)
    (order : Order) :
    Serves config now order lease (lease.serve config now (.run authorization order)) := by
  by_cases hroom : lease.HasRoom config now
  · cases hleft : lease.terminated with
    | true =>
        have hnoted : (lease.note config now).terminated = true := hleft
        simp only [serve, letThrough_of_hasRoom hroom, hnoted, if_true]
        exact .left hroom hleft
    | false =>
        have hnoted : (lease.note config now).terminated = false := hleft
        simp only [serve, letThrough_of_hasRoom hroom, hnoted, Lease.run_eq config order hnoted]
        exact .ran hroom hleft
  · simp only [serve, letThrough_of_not_hasRoom hroom]
    exact .tooMany hroom

end Lease

namespace Service

variable {gateway : Gateway} {service : Service} {moment : Moment} {token : Text}

/-- The result is the reply of a lease, and the service as before but for what is left of the lease
of a token. -/
structure Gives (token : Text) (service : Service)
    (served : Attempt (Option Lease) (Except Refusal Reply))
    (result : Attempt Service (Except Refusal Reply)) : Prop where
  reply : result.1 = served.1
  left : result.2.find? token = served.2
  others : ∀ other, other ≠ token → result.2.find? other = service.find? other
  settings : result.2.config = service.config

lemma gives_put (reply : Except Fault (Except Refusal Reply)) (token : Text) (lease : Lease)
    (service : Service) :
    Gives token service (reply, some lease) (reply, service.put token lease) :=
  ⟨rfl, find?_put_self .., fun _ hne => find?_put_of_ne lease service hne, rfl⟩

lemma gives_drop (reply : Except Fault (Except Refusal Reply)) (token : Text) (service : Service) :
    Gives token service (reply, none) (reply, service.drop token) :=
  ⟨rfl, find?_drop_self .., fun _ hne => find?_drop_of_ne service hne, rfl⟩

/-- An authorization is refused, or the lease that it names is touched and then used. -/
lemma gives_withLease {act : Act} {now : Int} {authorization : Option Text}
    (htoken : bearerToken? authorization = some token)
    {use : Text → Lease → Service → Attempt Service (Except Refusal Reply)}
    (huse : ∀ (lease : Lease) (middle : Service), middle.config = service.config →
      middle.find? token = some (lease.touch now) →
      Gives token middle (lease.serve service.config now act)
        (use token (lease.touch now) middle)) :
    Gives token service (Lease.serve? service.config now act (service.find? token))
      (service.withLease now authorization use) := by
  cases hfound : service.find? token with
  | none =>
      simp only [withLease, authorize, htoken, hfound, Lease.serve?]
      exact ⟨rfl, hfound, fun _ _ => rfl, rfl⟩
  | some lease =>
      by_cases hover : lease.isOver now = true
      · simp only [withLease, authorize, htoken, hfound, Lease.serve?, if_pos hover]
        exact gives_drop ..
      · have hused := huse lease (service.put token (lease.touch now)) rfl (find?_put_self ..)
        simp only [withLease, authorize, htoken, hfound, Lease.serve?, if_neg hover]
        exact ⟨hused.reply, hused.left, fun other hne =>
          (hused.others other hne).trans (find?_put_of_ne _ service hne), hused.settings⟩

lemma gives_runOrder (now : Int) (authorization : Option Text) (order : Order) (lease : Lease)
    (service : Service) :
    Gives token service (lease.serve service.config now (.run authorization order))
      (runOrder now order token (lease.touch now) service) := by
  simp only [runOrder, Lease.serve]
  rcases (lease.touch now).letThrough service.config now with ⟨_ | _, noted⟩
  · exact gives_put ..
  · simp only
    split_ifs
    · exact gives_put ..
    · rcases noted.run service.config order with ⟨fault | output, kept⟩ <;> exact gives_put ..

/-- **What needs a lease is served from it**, one case for each thing that needs one. -/
lemma gives_perform {act : Act} (h : act.token? = some token) :
    Gives token service (Lease.serve? service.config moment.now act (service.find? token))
      (service.perform moment act) := by
  cases act with
  | health => cases h
  | create client => cases h
  | delete authorization => exact gives_withLease h fun lease middle _ _ => gives_drop ..
  | commands authorization =>
      exact gives_withLease h fun lease middle _ hfound => ⟨rfl, hfound, fun _ _ => rfl, rfl⟩
  | run authorization order =>
      refine gives_withLease h fun lease middle hconfig _ => ?_
      rw [← hconfig]
      exact gives_runOrder moment.now authorization order lease middle

/-- An authorization that is none is refused, and nothing else happens. -/
lemma perform_of_token_none {act : Act} (hneeds : act.authorization? ≠ none)
    (h : act.token? = none) : service.perform moment act = (.ok (.error .noToken), service) := by
  cases act with
  | health => exact absurd rfl hneeds
  | create client => exact absurd rfl hneeds
  | delete authorization | commands authorization | run authorization order =>
      have htoken : bearerToken? authorization = none := h
      simp only [perform, withLease, authorize, htoken]

/-- The settings never change. -/
lemma config_respond (gateway : Gateway) (moment : Moment) (call : Call) (service : Service) :
    (service.respond gateway moment call).2.config = service.config := by
  cases hact : gateway.read call with
  | error refusal => simp only [respond, hact]
  | ok act =>
      simp only [respond, hact]
      cases htoken : act.token? with
      | some token => exact (gives_perform htoken).settings
      | none =>
          by_cases hneeds : act.authorization? = none
          · cases act with
            | health | create client => rfl
            | delete _ | commands _ | run _ _ => cases hneeds
          · rw [perform_of_token_none hneeds htoken]

/-- What a request makes of the lease of a token. -/
def leaseAfter (gateway : Gateway) (moment : Moment) (call : Call) (token : Text) (config : Config)
    (held : Option Lease) : Option Lease :=
  match gateway.read call with
  | .ok (.create client) =>
    if moment.token = token then some (.grant config client moment.now) else held
  | .ok act => if act.token? = some token then (Lease.serve? config moment.now act held).2 else held
  | .error _ => held

/-- A request that has nothing to do with a token leaves its lease alone. -/
lemma leaseAfter_of_isApart {call : Call} (h : gateway.IsApart token (moment, call))
    (config : Config) (held : Option Lease) :
    leaseAfter gateway moment call token config held = held := by
  obtain ⟨hbears, hgrant⟩ := h
  rw [leaseAfter]
  split
  · next client hact => exact if_neg (hgrant (Gateway.isGrant_iff.2 ⟨client, hact⟩))
  · next act _ hact =>
      refine if_neg fun htoken => ?_
      have hneeds : act.authorization? ≠ none := by
        intro hnone
        simp [Act.token?, hnone] at htoken
      rw [(Gateway.token?_eq_some_iff hact hneeds).1 htoken] at hbears
      cases hbears
  · rfl

/-- **A request makes of each lease what it makes of it alone.** -/
theorem find?_respond (gateway : Gateway) (moment : Moment) (call : Call) (token : Text)
    (service : Service) :
    (service.respond gateway moment call).2.find? token
      = leaseAfter gateway moment call token service.config (service.find? token) := by
  have hperform : ∀ act, act.authorization? ≠ none →
      (service.perform moment act).2.find? token = if act.token? = some token then
        (Lease.serve? service.config moment.now act (service.find? token)).2
        else service.find? token := by
    intro act hneeds
    cases htoken : act.token? with
    | none => simp [perform_of_token_none hneeds htoken]
    | some other =>
        have hgives := @gives_perform service moment other act htoken
        by_cases heq : other = token
        · rw [if_pos (congrArg some heq), ← heq]
          exact hgives.left
        · rw [if_neg (by simpa using heq)]
          exact hgives.others token (Ne.symm heq)
  cases hact : gateway.read call with
  | error refusal => simp only [respond, leaseAfter, hact]
  | ok act =>
      cases act with
      | health => simp [respond, leaseAfter, hact, perform, Act.token?, Act.authorization?]
      | create client =>
          simp only [respond, leaseAfter, hact, perform]
          split_ifs with heq
          · rw [← heq]
            exact find?_put_self ..
          · exact find?_put_of_ne _ service (Ne.symm heq)
      | delete authorization | commands authorization | run authorization order =>
          simp only [respond, leaseAfter, hact]
          exact hperform _ (by simp [Act.authorization?])

/-- The answer to a request that needs a lease tells how it was served. -/
lemma respond_of_token {call : Call} {act : Act} (hact : gateway.read call = .ok act)
    (htoken : act.token? = some token) :
    (service.respond gateway moment call).1
      = gateway.deliver (Lease.serve? service.config moment.now act (service.find? token)).1 := by
  simp only [respond, hact, (gives_perform htoken).reply]

lemma find?_respond_of_token {call : Call} {act : Act} (hact : gateway.read call = .ok act)
    (htoken : act.token? = some token) :
    (service.respond gateway moment call).2.find? token
      = (Lease.serve? service.config moment.now act (service.find? token)).2 := by
  simp only [respond, hact, (gives_perform htoken).left]

/-- Requests that bear a token get the same answer wherever its lease is the same. -/
lemma respond_congr {other : Service} {call : Call} (hbears : gateway.bears token call = true)
    (hconfig : other.config = service.config) (hfind : other.find? token = service.find? token) :
    (other.respond gateway moment call).1 = (service.respond gateway moment call).1 := by
  cases hact : gateway.read call with
  | error refusal => simp only [respond, hact]
  | ok act =>
      by_cases hneeds : act.authorization? = none
      · cases act with
        | health => simp only [respond, hact, perform]
        | create client =>
            have hgrant := Gateway.isGrant_iff.2 ⟨client, hact⟩
            rw [(Gateway.bears_iff.1 hbears).1] at hgrant
            cases hgrant
        | _ => cases hneeds
      · have htoken := (Gateway.token?_eq_some_iff hact hneeds).2 hbears
        rw [respond_of_token hact htoken, respond_of_token hact htoken, hconfig, hfind]

/-! ## Requests one after another -/

/-- The service after requests. -/
def after (gateway : Gateway) (requests : List (Moment × Call)) (service : Service) : Service :=
  requests.foldl (fun service request => (service.respond gateway request.1 request.2).2) service

lemma after_concat (gateway : Gateway) (requests : List (Moment × Call)) (moment : Moment)
    (call : Call) (service : Service) :
    service.after gateway (requests ++ [(moment, call)])
      = ((service.after gateway requests).respond gateway moment call).2 := by
  simp [after]

lemma config_after (gateway : Gateway) (requests : List (Moment × Call)) (service : Service) :
    (service.after gateway requests).config = service.config := by
  induction requests generalizing service with
  | nil => rfl
  | cons request requests ih =>
      exact (ih _).trans (config_respond gateway request.1 request.2 service)

end Service

end PipedShell
