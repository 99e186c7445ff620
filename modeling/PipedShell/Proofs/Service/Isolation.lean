import PipedShell.Proofs.Service.OneLease

/-!
# Leases do not interfere

The service answers the requests of all holders of tokens one after another.  Whoever holds one of
the tokens cannot tell from the answers whether there are others, since what a request gets depends
on the lease whose token it bears, and no request of another holder changes that lease.

* `Service.answersTo` — the answers to the requests that bear a token.
* `Service.isForeign` — the requests of others: they are granted another lease, or bear the token of
  one.
* `Service.answersTo_filter` — any requests can be left out that neither bear the token nor are
  granted the lease.
* **`leases_do_not_interfere`** — leaving out all requests of others changes no answer.
-/

namespace PipedShell

namespace Service

/-- The answers to the requests that bear a token, one after another. -/
def answersTo (gateway : Gateway) (token : Text) :
    List (Moment × Call) → Service → List (Except Fault Response)
  | [], _ => []
  | (moment, call) :: requests, service =>
    (if gateway.bears token call then [(service.respond gateway moment call).1] else []) ++
      answersTo gateway token requests (service.respond gateway moment call).2

/-- The tokens under which leases are granted. -/
def grantedTokens (gateway : Gateway) (requests : List (Moment × Call)) : List Text :=
  (requests.filter fun request => gateway.isGrant request.2).map fun request => request.1.token

/-- The request is granted a lease under another token than the given one, or bears one of the
tokens which is another one. -/
def isForeign (gateway : Gateway) (token : Text) (tokens : List Text)
    (request : Moment × Call) : Bool :=
  (gateway.isGrant request.2 && request.1.token != token) ||
    tokens.any fun other => other != token && gateway.bears other request.2

variable {gateway : Gateway} {token : Text} {requests : List (Moment × Call)}
  {service other : Service}

lemma isApart_of_isForeign {tokens : List Text} {request : Moment × Call}
    (h : isForeign gateway token tokens request = true) : gateway.IsApart token request := by
  simp only [isForeign, Bool.or_eq_true, Bool.and_eq_true, List.any_eq_true, bne_iff_ne] at h
  rcases h with ⟨hgrant, hne⟩ | ⟨other, -, hne, hother⟩
  · exact ⟨by simp [Gateway.bears, hgrant], fun _ => hne⟩
  · obtain ⟨hgrant, htoken⟩ := Gateway.bears_iff.1 hother
    exact ⟨by simpa [Gateway.bears, hgrant, htoken] using hne, fun h => by simp [hgrant] at h⟩

/-- Requests can be left out that have nothing to do with a lease, by induction on the requests:
what carries it is that both services have the same lease under the token. -/
lemma answersTo_filter {keep : Moment × Call → Bool}
    (hleft : ∀ request ∈ requests, keep request = false → gateway.IsApart token request)
    (hconfig : other.config = service.config) (hfind : other.find? token = service.find? token) :
    other.answersTo gateway token (requests.filter keep)
        = service.answersTo gateway token requests ∧
      (other.after gateway (requests.filter keep)).find? token
        = (service.after gateway requests).find? token := by
  induction requests generalizing service other with
  | nil => exact ⟨rfl, hfind⟩
  | cons request requests ih =>
      obtain ⟨moment, call⟩ := request
      obtain ⟨hfirst, hlater⟩ := List.forall_mem_cons.1 hleft
      have hafter := config_respond gateway moment call service
      by_cases hkeep : keep (moment, call) = true
      · rw [List.filter_cons_of_pos hkeep]
        obtain ⟨hanswers, hlease⟩ :=
          @ih (service.respond gateway moment call).2 (other.respond gateway moment call).2 hlater
            ((config_respond gateway moment call other).trans (hconfig.trans hafter.symm))
            (by rw [find?_respond, find?_respond, hconfig, hfind])
        refine ⟨?_, hlease⟩
        rw [answersTo, answersTo, hanswers]
        split_ifs with hbears
        · rw [respond_congr hbears hconfig hfind]
        · rfl
      · have hapart := hfirst (Bool.eq_false_iff.2 hkeep)
        have hkept : (service.respond gateway moment call).2.find? token
            = service.find? token := by
          rw [find?_respond, leaseAfter_of_isApart hapart]
        rw [List.filter_cons_of_neg hkeep, answersTo, hapart.1]
        exact ih hlater (hconfig.trans hafter.symm) (hfind.trans hkept.symm)

/-- **Leases do not interfere.**  Take any requests and a token, and leave out every request that is
granted a lease under another token or bears the token of another lease.  Then each request that
bears the token gets the answer that it got before, and the lease ends up the same, through
whatever gateway the requests come. -/
theorem leases_do_not_interfere (gateway : Gateway) (token : Text)
    (requests : List (Moment × Call)) (service : Service) :
    let own := requests.filter fun request =>
      !isForeign gateway token (grantedTokens gateway requests) request
    service.answersTo gateway token own = service.answersTo gateway token requests ∧
      (service.after gateway own).find? token
        = (service.after gateway requests).find? token := by
  refine answersTo_filter (fun request _ hleft => ?_) rfl rfl
  exact isApart_of_isForeign (Bool.not_eq_false' .. ▸ hleft)

end Service

end PipedShell
