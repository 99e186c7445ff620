import Mathlib.Data.List.Induction
import PipedShell.Proofs.Service.Bearer
import PipedShell.Proofs.Service.Isolation

/-!
# What becomes of a lease

A lease that is over stays with the service until somebody asks for it.  So what the service holds
does not tell which leases were granted, given back, or are over; the requests tell it.

* `Call.Names` — the authorization of a request names a token.
* `Service.Turns` — what one request does to the time at which a lease is over; `turns` says that
  there are no more cases.
* `Service.GrantedAt`, `Service.Deleted` — a lease was granted under a token, or given back.
* `Service.Chronicle` — requests in the order of their times, with a token of its own for each
  lease.
* `Service.Fate` — what became of the lease of a token, told from the requests alone.
* **`Chronicle.fate_after`** — the service holds a lease, over at the time that was fixed when it
  was granted, or it is told why not.
-/

namespace PipedShell

namespace Call

variable {call : Call} {token other : Text}

/-- The authorization of the request names the token. -/
def Names (token : Text) (call : Call) : Prop :=
  ∃ header : Text, call.authorization = some header ∧ header.NamesToken token

lemma names_iff : call.Names token ↔ bearerToken? call.authorization = some token := by
  constructor
  · rintro ⟨header, hheader, hnames⟩
    rw [hheader]
    exact bearerToken?_eq_some_iff.2 hnames
  · intro h
    cases hheader : call.authorization with
    | none =>
        rw [hheader] at h
        cases h
    | some header =>
        rw [hheader] at h
        exact ⟨header, hheader, bearerToken?_eq_some_iff.1 h⟩

lemma Names.unique (h : call.Names token) (h' : call.Names other) : other = token := by
  rw [names_iff] at h h'
  exact Option.some.inj (h'.symm.trans h)

end Call

lemma Gateway.token?_of_names {gateway : Gateway} {call : Call} {token : Text} {act : Act}
    (hact : gateway.read call = .ok act) (hneeds : act.authorization? ≠ none) :
    act.token? = some token ↔ call.Names token := by
  obtain ⟨authorization, hauthorization⟩ := Option.ne_none_iff_exists'.1 hneeds
  rw [Act.token?, hauthorization, authorization_of_read hact hauthorization, Call.names_iff]
  rfl

/-- The same lease at a later time: whatever it is used for, it is over when it was to be over. -/
lemma Lease.expiresAt_serve {config : Config} {now : Int} {lease kept : Lease} {act : Act}
    (h : (lease.serve config now act).2 = some kept) : kept.expiresAt = lease.expiresAt := by
  cases act with
  | health | create client | commands authorization =>
      cases h
      rfl
  | delete authorization => cases h
  | run authorization order =>
      have hserves := serves_run config now lease authorization order
      generalize lease.serve config now (.run authorization order) = served at h hserves
      cases hserves <;> cases h <;> rfl

namespace Service

variable {gateway : Gateway} {service : Service} {moment : Moment} {call : Call} {token : Text}
  {requests : List (Moment × Call)}

/-! ## One request -/

/-- The request asks to give back the lease of the token, and that is done. -/
def Ends (gateway : Gateway) (token : Text) (moment : Moment) (call : Call) (service : Service) :
    Prop :=
  gateway.read call = .ok (.delete call.authorization) ∧ call.Names token ∧
    Response.status? (service.respond gateway moment call).1 = some 200

/-- When the lease of the token is over. -/
def expiry? (token : Text) (service : Service) : Option Int :=
  (service.find? token).map Lease.expiresAt

/-- What a request does to the time at which the lease of the token is over. -/
inductive Turns (gateway : Gateway) (token : Text) (moment : Moment) (call : Call)
    (service : Service) : Prop
  /-- The lease is granted. -/
  | granted (asks : gateway.isGrant call = true) (under : moment.token = token)
      (expires : (service.respond gateway moment call).2.expiry? token
        = some (moment.now + service.config.sessionTtl))
  /-- The lease is given back. -/
  | ended {t : Int} (held : service.expiry? token = some t)
      (done : Ends gateway token moment call service)
      (gone : (service.respond gateway moment call).2.expiry? token = none)
  /-- The lease is found to be over. -/
  | lapsed {t : Int} (held : service.expiry? token = some t) (late : t < moment.now)
      (gone : (service.respond gateway moment call).2.expiry? token = none)
  /-- Nothing of that happens. -/
  | kept (other : gateway.isGrant call = true → moment.token ≠ token)
      (undone : ¬ Ends gateway token moment call service)
      (same : (service.respond gateway moment call).2.expiry? token = service.expiry? token)

lemma Ends.not_isGrant (h : Ends gateway token moment call service) :
    gateway.isGrant call = false := by
  simp [Gateway.isGrant, h.1]

lemma served_of_none {lease : Lease} {config : Config} {now : Int} {act : Act}
    (h : (lease.serve config now act).2 = none) :
    ∃ authorization, act = .delete authorization ∧
      (lease.serve config now act).1 = .ok (.ok .deleted) := by
  cases act with
  | delete authorization => exact ⟨authorization, rfl, rfl⟩
  | run authorization order =>
      have hserves := Lease.serves_run config now lease authorization order
      generalize lease.serve config now (.run authorization order) = served at h hserves
      cases hserves <;> cases h
  | health | create client | commands authorization => cases h

/-- A request that bears the token finds no lease, or one that is over, or it is served. -/
lemma turns_of_token (hsends : gateway.Sends) {act : Act} (hact : gateway.read call = .ok act)
    (htoken : act.token? = some token)
    (hother : gateway.isGrant call = true → moment.token ≠ token) :
    Turns gateway token moment call service := by
  have hanswer := @respond_of_token gateway service moment token call act hact htoken
  have hleft := @find?_respond_of_token gateway service moment token call act hact htoken
  cases hfound : service.find? token with
  | none =>
      rw [hfound] at hanswer hleft
      have hrefused : Response.status? (service.respond gateway moment call).1 = some 401 := by
        rw [hanswer]
        exact hsends.status?_refusal (by decide)
      refine .kept hother (fun hends => ?_) ?_
      · have hdone := hends.2.2
        simp [hrefused] at hdone
      · rw [expiry?, expiry?, hleft, hfound, Lease.serve?]
  | some lease =>
      rw [hfound] at hanswer hleft
      have hheld : service.expiry? token = some lease.expiresAt := by
        rw [expiry?, hfound, Option.map_some]
      by_cases hover : lease.isOver moment.now = true
      · simp only [Lease.serve?, if_pos hover] at hleft
        exact .lapsed hheld (of_decide_eq_true hover) (by rw [expiry?, hleft, Option.map_none])
      · simp only [Lease.serve?, if_neg hover] at hanswer hleft
        cases hkept : (lease.serve service.config moment.now act).2 with
        | some kept =>
            refine .kept hother (fun hends => ?_) ?_
            · cases hends.1.symm.trans hact
              cases hkept
            · rw [hheld, expiry?, hleft, hkept, Option.map_some, Lease.expiresAt_serve hkept]
        | none =>
            obtain ⟨authorization, rfl, hdeleted⟩ := served_of_none hkept
            have hneeds : (Act.delete authorization).authorization? = some authorization := rfl
            refine .ended hheld ⟨?_, ?_, ?_⟩ (by rw [expiry?, hleft, hkept, Option.map_none])
            · rw [← Gateway.authorization_of_read hact hneeds]
              exact hact
            · exact (Gateway.token?_of_names hact (by simp [hneeds])).1 htoken
            · rw [hanswer, hdeleted]
              exact hsends.status?_reply _

/-- **No request does anything else to a lease** than those four. -/
lemma turns (hsends : gateway.Sends) (token : Text) (moment : Moment) (call : Call)
    (service : Service) : Turns gateway token moment call service := by
  by_cases hown : gateway.isGrant call = true ∧ moment.token = token
  · obtain ⟨hgrant, hunder⟩ := hown
    obtain ⟨client, hact⟩ := Gateway.isGrant_iff.1 hgrant
    refine .granted hgrant hunder ?_
    rw [expiry?, find?_respond, leaseAfter]
    simp only [hact, if_pos hunder, Option.map_some, Lease.grant]
  · have hother : gateway.isGrant call = true → moment.token ≠ token :=
      fun hgrant hunder => hown ⟨hgrant, hunder⟩
    by_cases htoken : ∃ act, gateway.read call = .ok act ∧ act.token? = some token
    · obtain ⟨act, hact, htoken⟩ := htoken
      exact turns_of_token hsends hact htoken hother
    · refine .kept hother (fun hends => htoken ?_) ?_
      · exact ⟨_, hends.1, Call.names_iff.1 hends.2.1⟩
      · rw [expiry?, expiry?, find?_respond, leaseAfter]
        split
        · next client hact => rw [if_neg (hother (Gateway.isGrant_iff.2 ⟨client, hact⟩))]
        · next act _ hact => rw [if_neg fun h => htoken ⟨act, hact, h⟩]
        · rfl

/-! ## Requests one after another -/

/-- A lease is granted under the token at a time. -/
def GrantedAt (gateway : Gateway) (token : Text) (t : Int)
    (requests : List (Moment × Call)) : Prop :=
  ∃ call : Call, (⟨t, token⟩, call) ∈ requests ∧ gateway.isGrant call = true

/-- One of the requests asks to give back the lease of the token, and that is done. -/
def Deleted (gateway : Gateway) (token : Text) (requests : List (Moment × Call))
    (service : Service) : Prop :=
  ∃ earlier moment call later, requests = earlier ++ (moment, call) :: later ∧
    Ends gateway token moment call (service.after gateway earlier)

/-- Requests at times that do not decrease, each lease among them granted under a token of its
own. -/
structure Chronicle (gateway : Gateway) (requests : List (Moment × Call)) : Prop where
  ordered : requests.Pairwise fun earlier later => earlier.1.now ≤ later.1.now
  distinct : (grantedTokens gateway requests).Nodup

lemma GrantedAt.append {t : Int} (h : GrantedAt gateway token t requests)
    (later : List (Moment × Call)) : GrantedAt gateway token t (requests ++ later) := by
  obtain ⟨call, hmem, hgrant⟩ := h
  exact ⟨call, List.mem_append_left _ hmem, hgrant⟩

lemma GrantedAt.mem {t : Int} (h : GrantedAt gateway token t requests) :
    token ∈ grantedTokens gateway requests := by
  obtain ⟨call, hmem, hgrant⟩ := h
  exact List.mem_map.2 ⟨_, List.mem_filter.2 ⟨hmem, hgrant⟩, rfl⟩

lemma grantedTokens_append (requests later : List (Moment × Call)) :
    grantedTokens gateway (requests ++ later)
      = grantedTokens gateway requests ++ grantedTokens gateway later := by
  simp [grantedTokens]

lemma grantedAt_concat {t : Int} : GrantedAt gateway token t (requests ++ [(moment, call)]) ↔
    GrantedAt gateway token t requests ∨ gateway.isGrant call = true ∧ moment = ⟨t, token⟩ := by
  constructor
  · rintro ⟨asked, hmem, hgrant⟩
    rcases List.mem_append.1 hmem with hearlier | hlast
    · exact .inl ⟨asked, hearlier, hgrant⟩
    · cases List.mem_singleton.1 hlast
      exact .inr ⟨hgrant, rfl⟩
  · rintro (hearlier | ⟨hgrant, rfl⟩)
    · exact hearlier.append _
    · exact ⟨call, by simp, hgrant⟩

lemma Deleted.append (h : Deleted gateway token requests service) (later : List (Moment × Call)) :
    Deleted gateway token (requests ++ later) service := by
  obtain ⟨earlier, moment, call, rest, rfl, hends⟩ := h
  exact ⟨earlier, moment, call, rest ++ later, by simp, hends⟩

lemma deleted_concat : Deleted gateway token (requests ++ [(moment, call)]) service ↔
    Deleted gateway token requests service ∨
      Ends gateway token moment call (service.after gateway requests) := by
  constructor
  · rintro ⟨earlier, asked, request, later, hsplit, hends⟩
    rcases List.eq_nil_or_concat later with rfl | ⟨later, last, rfl⟩
    · obtain ⟨rfl, hlast⟩ := List.append_inj' hsplit rfl
      cases hlast
      exact .inr hends
    · have hlonger : requests ++ [(moment, call)]
          = (earlier ++ (asked, request) :: later) ++ [last] := by simpa using hsplit
      obtain ⟨rfl, -⟩ := List.append_inj' hlonger rfl
      exact .inl ⟨earlier, asked, request, later, rfl, hends⟩
  · rintro (hearlier | hends)
    · exact hearlier.append _
    · exact ⟨requests, moment, call, [], rfl, hends⟩

/-- What became of the lease of a token, and when it is over if the service still has it. -/
inductive Fate (gateway : Gateway) (token : Text) (service : Service)
    (requests : List (Moment × Call)) : Option Int → Prop
  /-- None was granted. -/
  | unknown (never : ∀ t, ¬ GrantedAt gateway token t requests)
      (undone : ¬ Deleted gateway token requests service) : Fate gateway token service requests none
  /-- It is there, and over at the time that was fixed when it was granted. -/
  | there {t : Int} (granted : GrantedAt gateway token t requests)
      (undone : ¬ Deleted gateway token requests service) :
      Fate gateway token service requests (some (t + service.config.sessionTtl))
  /-- It was given back. -/
  | deleted {t : Int} (granted : GrantedAt gateway token t requests)
      (done : Deleted gateway token requests service) :
      Fate gateway token service requests none
  /-- It was found to be over. -/
  | lapsed {t : Int} (granted : GrantedAt gateway token t requests)
      (late : ∃ request ∈ requests, t + service.config.sessionTtl < request.1.now) :
      Fate gateway token service requests none

namespace Chronicle

variable {later : List (Moment × Call)}

lemma init (h : Chronicle gateway (requests ++ later)) : Chronicle gateway requests where
  ordered := (List.pairwise_append.1 h.ordered).1
  distinct := by
    have hdistinct := h.distinct
    rw [grantedTokens_append] at hdistinct
    exact (List.nodup_append.1 hdistinct).1

lemma sooner (h : Chronicle gateway (requests ++ (moment, call) :: later)) :
    ∀ request ∈ requests, request.1.now ≤ moment.now := fun request hmem =>
  (List.pairwise_append.1 h.ordered).2.2 request hmem (moment, call) List.mem_cons_self

/-- No lease was granted before under the token of the last one. -/
lemma never (h : Chronicle gateway (requests ++ [(moment, call)]))
    (hgrant : gateway.isGrant call = true) (t : Int) :
    ¬ GrantedAt gateway moment.token t requests := by
  intro hgranted
  have hdistinct := h.distinct
  rw [grantedTokens_append] at hdistinct
  have hlast : GrantedAt gateway moment.token moment.now [(moment, call)] := ⟨call, by simp, hgrant⟩
  exact (List.nodup_append.1 hdistinct).2.2 _ hgranted.mem _ hlast.mem rfl

/-- A lease is granted under a token at one time only. -/
lemma unique (h : Chronicle gateway requests) {t t' : Int}
    (hgranted : GrantedAt gateway token t requests)
    (hgranted' : GrantedAt gateway token t' requests) : t' = t := by
  induction requests using List.reverseRecOn with
  | nil =>
      obtain ⟨call, hmem, -⟩ := hgranted
      cases hmem
  | append_singleton requests request ih =>
      obtain ⟨moment, call⟩ := request
      rcases grantedAt_concat.1 hgranted with hearlier | ⟨hgrant, rfl⟩
      · rcases grantedAt_concat.1 hgranted' with hearlier' | ⟨hgrant', rfl⟩
        · exact ih h.init hearlier hearlier'
        · exact absurd hearlier (h.never hgrant' t)
      · rcases grantedAt_concat.1 hgranted' with hearlier' | ⟨-, hmoment⟩
        · exact absurd hearlier' (h.never hgrant t')
        · cases hmoment
          rfl

/-- **The requests tell what became of a lease**, by induction on the last request. -/
lemma fate_after (h : Chronicle gateway requests) (hsends : gateway.Sends) (token : Text)
    (config : Config) : Fate gateway token { config } requests
      ((({ config } : Service).after gateway requests).expiry? token) := by
  induction requests using List.reverseRecOn with
  | nil =>
      refine .unknown (fun t hgranted => ?_) fun hdeleted => ?_
      · obtain ⟨call, hmem, -⟩ := hgranted
        cases hmem
      · obtain ⟨earlier, moment, call, later, hsplit, -⟩ := hdeleted
        simp at hsplit
  | append_singleton requests request ih =>
      obtain ⟨moment, call⟩ := request
      have hfate := ih h.init
      rw [after_concat]
      cases turns hsends token moment call (({ config } : Service).after gateway requests) with
      | granted hgrant hunder hexpires =>
          subst hunder
          rw [hexpires, config_after]
          refine .there (grantedAt_concat.2 (.inr ⟨hgrant, rfl⟩)) fun hdeleted => ?_
          have hnever := h.never hgrant
          rcases deleted_concat.1 hdeleted with hearlier | hends
          · generalize (({ config } : Service).after gateway requests).expiry? moment.token = expiry
              at hfate
            cases hfate with
            | unknown _ hundone => exact hundone hearlier
            | there hgranted _ | deleted hgranted _ | lapsed hgranted _ => exact hnever _ hgranted
          · rw [hends.not_isGrant] at hgrant
            cases hgrant
      | ended hheld hends hgone =>
          rw [hheld] at hfate
          rw [hgone]
          cases hfate with
          | there hgranted _ =>
              exact .deleted (hgranted.append _) (deleted_concat.2 (.inr hends))
      | lapsed hheld hlate hgone =>
          rw [hheld] at hfate
          rw [hgone]
          cases hfate with
          | there hgranted _ =>
              exact .lapsed (hgranted.append _) ⟨(moment, call), by simp, hlate⟩
      | kept hother hundone hsame =>
          rw [hsame]
          have hgrants : ∀ t, GrantedAt gateway token t (requests ++ [(moment, call)]) →
              GrantedAt gateway token t requests := by
            intro t hgranted
            rcases grantedAt_concat.1 hgranted with hearlier | ⟨hgrant, rfl⟩
            · exact hearlier
            · exact absurd rfl (hother hgrant)
          have hdeletes : Deleted gateway token (requests ++ [(moment, call)]) { config } →
              Deleted gateway token requests { config } := fun hdeleted =>
            (deleted_concat.1 hdeleted).resolve_right hundone
          generalize (({ config } : Service).after gateway requests).expiry? token = expiry
            at hfate ⊢
          cases hfate with
          | unknown hnever hkept =>
              exact .unknown (fun t => hnever t ∘ hgrants t) (hkept ∘ hdeletes)
          | there hgranted hkept => exact .there (hgranted.append _) (hkept ∘ hdeletes)
          | deleted hgranted hdone => exact .deleted (hgranted.append _) (hdone.append _)
          | lapsed hgranted hlate =>
              obtain ⟨request, hmem, hlate⟩ := hlate
              exact .lapsed (hgranted.append _) ⟨request, List.mem_append_left _ hmem, hlate⟩

end Chronicle

end Service

end PipedShell
