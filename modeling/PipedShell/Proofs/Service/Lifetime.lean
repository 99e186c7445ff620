import PipedShell.Proofs.Service.Fate
import PipedShell.Proofs.Service.History

/-!
# How long a token is valid

A request that needs a lease is answered if its token is valid, and otherwise refused with the
status of a request without authorization.  Which of the two happens is told by the requests before
it: by when the lease was granted and whether it was given back.

* `Service.statusAfter` — the status of the answer to a request that comes after others.
* `Service.IsVoid` — no lease was granted under the token, or it was given back, or it is over.
* `Chronicle.refused_iff` — a request is refused exactly if its token is void.
* `IsVoid.append` — and then it stays so.
* **`token_valid_for_life`** — a token is valid from when its lease is granted until it is given
  back or over, whatever else is asked of the service.
-/

namespace PipedShell

/-- The request needs a lease, and its body is valid if it has to have one. -/
def Gateway.NeedsLease (gateway : Gateway) (call : Call) : Prop :=
  ∃ act, gateway.read call = .ok act ∧ act.authorization? ≠ none

/-- A lease of a service that answered any requests runs every order. -/
lemma Lease.Sound.exists_output {config : Config} {code : Int} {lease : Lease}
    (h : lease.Sound config code) (order : Order) :
    ∃ output, Output.ofRun config
      ((lease.prepare order.stdin).runLine order.command.trim) = .ok output := by
  by_cases hblank : order.IsBlank config
  · exact ⟨_, (h.answers_of_isBlank hblank).ofRun_eq config⟩
  · obtain ⟨outcome, stdout, stderr, hanswers⟩ := exists_answers config hblank
    exact ⟨_, (hanswers lease code h).ofRun_eq config⟩

namespace Service

variable {gateway : Gateway} {service : Service} {moment : Moment} {call : Call} {token : Text}
  {requests : List (Moment × Call)}

/-! ## Every answer -/

lemma reached_after (gateway : Gateway) (config : Config) (requests : List (Moment × Call)) :
    ∃ journal, Reached gateway config (({ config } : Service).after gateway requests) journal := by
  induction requests using List.reverseRecOn with
  | nil => exact ⟨_, .start⟩
  | append_singleton requests request ih =>
      obtain ⟨journal, hreached⟩ := ih
      rw [after_concat]
      exact ⟨_, hreached.handled request.1 request.2⟩

/-- The status of the answer to a request that comes after others. -/
def statusAfter (gateway : Gateway) (earlier : List (Moment × Call)) (moment : Moment) (call : Call)
    (service : Service) : Option Nat :=
  Response.status? ((service.after gateway earlier).respond gateway moment call).1

/-- No lease was granted under the token, or it was given back, or it is over. -/
def IsVoid (gateway : Gateway) (config : Config) (token : Text) (now : Int)
    (earlier : List (Moment × Call)) : Prop :=
  (∀ t, ¬ GrantedAt gateway token t earlier) ∨ Deleted gateway token earlier { config } ∨
    ∃ t, GrantedAt gateway token t earlier ∧ t + config.sessionTtl < now

variable {config : Config} {earlier later : List (Moment × Call)}

lemma statusAfter_of_token {act : Act} (hact : gateway.read call = .ok act)
    (htoken : act.token? = some token) (earlier : List (Moment × Call)) (moment : Moment)
    (service : Service) :
    service.statusAfter gateway earlier moment call = Response.status? (gateway.deliver
      (Lease.serve? service.config moment.now act
        ((service.after gateway earlier).find? token)).1) := by
  rw [statusAfter, respond_of_token hact htoken, config_after]

/-- A lease that is not over serves whoever bears its token. -/
lemma statusAfter_of_found (hsends : gateway.Sends) {act : Act} (hact : gateway.read call = .ok act)
    (htoken : act.token? = some token) {lease : Lease}
    (hfound : (({ config } : Service).after gateway earlier).find? token = some lease)
    (hover : lease.isOver moment.now = false) :
    let status := ({ config } : Service).statusAfter gateway earlier moment call
    status = some 200 ∨
      (gateway.order? call).isSome = true ∧ (status = some 409 ∨ status = some 429) := by
  intro status
  obtain ⟨journal, hreached⟩ := reached_after gateway config earlier
  have hsound := hreached.sound.leases token lease hfound
  have hstatus : status = Response.status? (gateway.deliver
      (lease.serve config moment.now act).1) := by
    simp only [status, statusAfter_of_token hact htoken, hfound, Lease.serve?, hover,
      Bool.false_eq_true, if_false]
  rw [hstatus]
  cases act with
  | health => cases htoken
  | create client => cases htoken
  | delete authorization =>
      exact .inl (hsends.status?_reply _)
  | commands authorization =>
      exact .inl (hsends.status?_reply _)
  | run authorization order =>
      have horder : (gateway.order? call).isSome = true := by
        rw [Gateway.order?_eq_some_iff.2 hact]
        rfl
      have hserves := Lease.serves_run config moment.now lease authorization order
      generalize lease.serve config moment.now (.run authorization order) = served at hserves ⊢
      cases hserves with
      | tooMany _ => exact .inr ⟨horder, .inr (hsends.status?_refusal (by decide))⟩
      | left _ _ => exact .inr ⟨horder, .inl (hsends.status?_refusal (by decide))⟩
      | ran _ _ =>
          obtain ⟨output, houtput⟩ := hsound.exists_output order
          rw [houtput]
          exact .inl (hsends.status?_reply (.ran output))

lemma Chronicle.granted_of_found (h : Chronicle gateway requests) (hsends : gateway.Sends)
    {lease : Lease}
    (hfound : (({ config } : Service).after gateway requests).find? token = some lease) :
    ¬ Deleted gateway token requests { config } ∧
      ∃ t, GrantedAt gateway token t requests ∧ lease.expiresAt = t + config.sessionTtl := by
  have hfate := h.fate_after hsends token config
  generalize hexpiry : (({ config } : Service).after gateway requests).expiry? token = expiry
    at hfate
  rw [expiry?, hfound, Option.map_some] at hexpiry
  cases hfate with
  | unknown _ _ | deleted _ _ | lapsed _ _ => cases hexpiry
  | there hgranted hundone => exact ⟨hundone, _, hgranted, Option.some.inj hexpiry⟩

lemma Chronicle.isVoid_of_not_found (h : Chronicle gateway requests) (hsends : gateway.Sends)
    (hfound : (({ config } : Service).after gateway requests).find? token = none) {now : Int}
    (hnow : ∀ request ∈ requests, request.1.now ≤ now) :
    IsVoid gateway config token now requests := by
  have hfate := h.fate_after hsends token config
  generalize hexpiry : (({ config } : Service).after gateway requests).expiry? token = expiry
    at hfate
  rw [expiry?, hfound, Option.map_none] at hexpiry
  cases hfate with
  | unknown hnever _ => exact .inl hnever
  | there _ _ => cases hexpiry
  | deleted _ hdone => exact .inr (.inl hdone)
  | lapsed hgranted hlate =>
      obtain ⟨request, hmem, hlate⟩ := hlate
      exact .inr (.inr ⟨_, hgranted, Int.lt_of_lt_of_le hlate (hnow request hmem)⟩)

/-- What the requests tell of the token decides whether the request is refused for it. -/
lemma Chronicle.refused_iff (h : Chronicle gateway (earlier ++ (moment, call) :: later))
    (hsends : gateway.Sends) {act : Act} (hact : gateway.read call = .ok act)
    (htoken : act.token? = some token) (config : Config) :
    ({ config } : Service).statusAfter gateway earlier moment call = some 401 ↔
      IsVoid gateway config token moment.now earlier := by
  have hstatus := statusAfter_of_token hact htoken earlier moment { config }
  cases hfound : (({ config } : Service).after gateway earlier).find? token with
  | none =>
      rw [hfound, Lease.serve?, hsends.status?_refusal (by decide)] at hstatus
      exact iff_of_true hstatus (h.init.isVoid_of_not_found hsends hfound h.sooner)
  | some lease =>
      obtain ⟨hundone, t, hgranted, hexpires⟩ := h.init.granted_of_found hsends hfound
      cases hover : lease.isOver moment.now with
      | true =>
          have hlate : lease.expiresAt < moment.now := of_decide_eq_true hover
          rw [hfound, Lease.serve?, if_pos hover, hsends.status?_refusal (by decide)] at hstatus
          exact iff_of_true hstatus (.inr (.inr ⟨t, hgranted, hexpires ▸ hlate⟩))
      | false =>
          have hserved := statusAfter_of_found hsends hact htoken hfound hover
          have hlate : ¬ lease.expiresAt < moment.now := of_decide_eq_false hover
          refine iff_of_false (fun hrefused => ?_) ?_
          · simp [hrefused] at hserved
          rintro (hnever | hdeleted | ⟨t', hgranted', hlate'⟩)
          · exact hnever t hgranted
          · exact hundone hdeleted
          · rw [h.init.unique hgranted hgranted'] at hlate'
            exact hlate (hexpires ▸ hlate')

lemma statusAfter_of_nameless (hsends : gateway.Sends) {act : Act}
    (hact : gateway.read call = .ok act) (hneeds : act.authorization? ≠ none)
    (htoken : act.token? = none) (earlier : List (Moment × Call)) (moment : Moment)
    (service : Service) :
    service.statusAfter gateway earlier moment call = some 401 := by
  simp only [statusAfter, respond, hact, perform_of_token_none hneeds htoken]
  exact hsends.status?_refusal (by decide)

/-- Nothing else comes of a request that is not refused for its token. -/
lemma statusAfter_of_ne_unauthorized (hsends : gateway.Sends) (hneeds : gateway.NeedsLease call)
    (hknown : ({ config } : Service).statusAfter gateway earlier moment call ≠ some 401) :
    let status := ({ config } : Service).statusAfter gateway earlier moment call
    status = some 200 ∨
      (gateway.order? call).isSome = true ∧ (status = some 409 ∨ status = some 429) := by
  obtain ⟨act, hact, hauthorization⟩ := hneeds
  cases htoken : act.token? with
  | none => exact absurd (statusAfter_of_nameless hsends hact hauthorization htoken ..) hknown
  | some token =>
      have hstatus := statusAfter_of_token hact htoken earlier moment { config }
      cases hfound : (({ config } : Service).after gateway earlier).find? token with
      | none =>
          rw [hfound, Lease.serve?, hsends.status?_refusal (by decide)] at hstatus
          exact absurd hstatus hknown
      | some lease =>
          cases hover : lease.isOver moment.now with
          | true =>
              rw [hfound, Lease.serve?, if_pos hover, hsends.status?_refusal (by decide)] at hstatus
              exact absurd hstatus hknown
          | false => exact statusAfter_of_found hsends hact htoken hfound hover

/-- A token that is not valid any more never is again. -/
lemma IsVoid.append {now now' : Int} (h : IsVoid gateway config token now earlier)
    (hgranted : ∃ t, GrantedAt gateway token t earlier) (hle : now ≤ now')
    (middle : List (Moment × Call)) :
    IsVoid gateway config token now' (earlier ++ middle) := by
  obtain ⟨t, hgranted⟩ := hgranted
  rcases h with hnever | hdeleted | ⟨t', hgranted', hlate⟩
  · exact absurd hgranted (hnever t)
  · exact .inr (.inl (hdeleted.append middle))
  · exact .inr (.inr ⟨t', hgranted'.append middle, Int.lt_of_lt_of_le hlate hle⟩)

/-- **A token is valid exactly during the life of its lease.**  Take any requests at times that do
not decrease, and one of them that needs a lease.  It is refused for its token exactly if it names
none, or no lease was granted under it, or the lease was given back, or the time that was fixed when
it was granted is over.  If it is not, it is answered, or held up because the shell was left or too
many lines were run.  No request changes when a lease is over, and a token that was refused after
its lease was granted is refused ever after. -/
theorem token_valid_for_life {gateway : Gateway} (hsends : gateway.Sends) (config : Config)
    {requests earlier later : List (Moment × Call)}
    {moment : Moment} {call : Call} (h : Chronicle gateway requests)
    (hsplit : requests = earlier ++ (moment, call) :: later) (hneeds : gateway.NeedsLease call) :
    let start : Service := { config }
    let status := start.statusAfter gateway earlier moment call
    (status = some 401 ↔ (¬ ∃ token, call.Names token) ∨
      ∃ token, call.Names token ∧ IsVoid gateway config token moment.now earlier) ∧
    (status ≠ some 401 → status = some 200 ∨
      (gateway.order? call).isSome = true ∧ (status = some 409 ∨ status = some 429)) ∧
    (∀ token lease, (start.after gateway earlier).find? token = some lease →
      ∃ t, GrantedAt gateway token t earlier ∧ lease.expiresAt = t + config.sessionTtl) ∧
    (status = some 401 → ∀ token t, call.Names token → GrantedAt gateway token t earlier →
      ∀ middle next again rest, later = middle ++ (next, again) :: rest →
        gateway.NeedsLease again → again.Names token →
        start.statusAfter gateway (earlier ++ (moment, call) :: middle) next again = some 401) := by
  subst hsplit
  intro start status
  have hanswered : status ≠ some 401 →
      status = some 200 ∨
      (gateway.order? call).isSome = true ∧ (status = some 409 ∨ status = some 429) :=
    statusAfter_of_ne_unauthorized hsends hneeds
  obtain ⟨act, hact, hauthorization⟩ := hneeds
  refine ⟨?_, hanswered, fun token lease hfound => (h.init.granted_of_found hsends hfound).2, ?_⟩
  · by_cases hnamed : ∃ token, call.Names token
    · obtain ⟨token, hnames⟩ := hnamed
      have htoken := (Gateway.token?_of_names hact hauthorization).2 hnames
      rw [h.refused_iff hsends hact htoken config]
      constructor
      · exact fun hvoid => .inr ⟨token, hnames, hvoid⟩
      · rintro (hnone | ⟨other, hother, hvoid⟩)
        · exact absurd ⟨token, hnames⟩ hnone
        · exact hnames.unique hother ▸ hvoid
    · have htoken : act.token? = none := by
        refine Option.eq_none_iff_forall_ne_some.2 fun token htoken => hnamed ⟨token, ?_⟩
        exact (Gateway.token?_of_names hact hauthorization).1 htoken
      exact iff_of_true (statusAfter_of_nameless hsends hact hauthorization htoken ..) (.inl hnamed)
  · rintro hrefused token t hnames hgranted middle next again rest rfl ⟨asked, hasked, hneeds⟩
      hagain
    have htoken := (Gateway.token?_of_names hact hauthorization).2 hnames
    have hasksToken := (Gateway.token?_of_names hasked hneeds).2 hagain
    have hvoid := (h.refused_iff hsends hact htoken config).1 hrefused
    have hlonger : Chronicle gateway
        ((earlier ++ (moment, call) :: middle) ++ (next, again) :: rest) := by simpa using h
    have hle := hlonger.sooner (moment, call) (by simp)
    exact (hlonger.refused_iff hsends hasked hasksToken config).2 (hvoid.append ⟨t, hgranted⟩ hle _)

/-- A lease is granted, used at its last moment, and then used twice after it. -/
def outlived : List (Moment × Call) :=
  [(⟨0, "t"⟩, grantCall), (⟨604800, "u"⟩, orderCall "true"), (⟨604801, "v"⟩, orderCall "true"),
    (⟨604801, "w"⟩, orderCall "true")]

lemma chronicle_outlived : Chronicle (.standard {}) outlived where
  ordered := by decide
  distinct := by decide +kernel

theorem token_valid_for_life_outlived :
    let start : Service := {}
    start.statusAfter (.standard {}) (outlived.take 1) ⟨604800, "u"⟩ (orderCall "true")
        ≠ some 401 ∧
      start.statusAfter (.standard {}) (outlived.take 2) ⟨604801, "v"⟩ (orderCall "true")
        = some 401 ∧
      start.statusAfter (.standard {}) (outlived.take 3) ⟨604801, "w"⟩ (orderCall "true")
        = some 401 := by
  intro start
  have hsends := Gateway.sends_standard {} false
  have horder : (Gateway.standard {}).order? (orderCall "true")
      = some (some ("Bearer t" : Text), ⟨"true", []⟩) := by
    decide +kernel
  have hneeds : (Gateway.standard {}).NeedsLease (orderCall "true") :=
    ⟨_, Gateway.order?_eq_some_iff.1 horder, Option.some_ne_none _⟩
  have hnames : (orderCall "true").Names "t" := Call.names_iff.2 (by decide +kernel)
  have hgranted : GrantedAt (.standard {}) "t" 0 [(⟨0, "t"⟩, grantCall)] :=
    ⟨grantCall, by simp, by decide +kernel⟩
  have hundone : ¬ Deleted (.standard {}) "t" [(⟨0, "t"⟩, grantCall)] {} := by
    intro hdeleted
    rcases (@deleted_concat (.standard {}) {} ⟨0, "t"⟩ grantCall "t" []).1 hdeleted with
      ⟨earlier, moment, call, later, hsplit, -⟩ | hends
    · simp at hsplit
    · exact absurd hends.not_isGrant (by decide +kernel)
  have hfirst : Chronicle (.standard {}) [(⟨0, "t"⟩, grantCall)] :=
    @Chronicle.init _ (outlived.take 1) (outlived.drop 1) chronicle_outlived
  obtain ⟨hlast, -⟩ := @token_valid_for_life _ hsends {} outlived (outlived.take 1) _ _ _
    chronicle_outlived rfl hneeds
  obtain ⟨hover, -, -, hafter⟩ := @token_valid_for_life _ hsends {} outlived (outlived.take 2) _ _ _
    chronicle_outlived rfl hneeds
  have hgrantedLater : GrantedAt (.standard {}) "t" 0 (outlived.take 2) := hgranted.append _
  have hrefused := hover.2 (.inr ⟨"t", hnames, .inr (.inr ⟨0, hgrantedLater, by decide⟩)⟩)
  refine ⟨fun hstatus => ?_, hrefused, ?_⟩
  · rcases hlast.1 hstatus with hnone | ⟨token, hother, hvoid⟩
    · exact hnone ⟨"t", hnames⟩
    · rw [hnames.unique hother] at hvoid
      rcases hvoid with hnever | hdeleted | ⟨t, hagain, hlate⟩
      · exact hnever 0 hgranted
      · exact hundone hdeleted
      · rw [hfirst.unique hgranted hagain] at hlate
        exact absurd hlate (by decide)
  · exact hafter hrefused "t" 0 hnames hgrantedLater [] _ _ [] rfl hneeds hnames

end Service

end PipedShell
