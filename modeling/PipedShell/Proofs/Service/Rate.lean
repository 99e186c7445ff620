import Mathlib.Data.List.Induction
import PipedShell.Proofs.Service.OneLease

/-!
# The rate limit over every window

Whenever the service is asked to run a line, it forgets the requests that it let through too long
ago, and counts those that are left.  So it looks at the windows that end with a request.  The law
that it keeps is about all windows, wherever they begin: what was forgotten once is out of every
window that a later request is in.

* `Service.Passes` — a request to run a line is let through, whatever comes of the line then.
* `Service.Treats` — the three things that such a request can do to its lease; `treats` says that
  there is no fourth one.
* `Service.Spares` — no request of any other kind changes what counts on the lease.
* `Service.passedTimes` — when requests of a list passed; `counted_after` says that these are all
  that count later, as far as they are recent enough.
* **`rate_limit_every_window`** — in no window more requests pass than allowed, and none is held up
  unless as many passed in the window that ends with it.
-/

namespace PipedShell

namespace Gateway

variable {gateway : Gateway} {call : Call} {token : Text}

/-- The token under which a call asks to run a line, if it does and its body can be read and is
valid. -/
def orderToken? (gateway : Gateway) (call : Call) : Option Text :=
  (gateway.order? call).bind fun named => bearerToken? named.1

lemma orderToken?_eq_some_iff : gateway.orderToken? call = some token ↔
    ∃ authorization order, gateway.read call = .ok (.run authorization order) ∧
      bearerToken? authorization = some token := by
  simp only [orderToken?, Option.bind_eq_some_iff, Prod.exists, order?_eq_some_iff]

end Gateway

namespace Lease

variable {config : Config} {now : Int} {lease : Lease}

/-- What does not count any more never counts again. -/
lemma counted_counted {later : Int} (h : now ≤ later) :
    (lease.counted config now).filter (fun t => later - t ≤ config.rateWindow)
      = lease.counted config later := by
  rw [counted, counted, List.filter_filter]
  refine List.filter_congr fun t _ => ?_
  simp only [Bool.and_eq_decide, decide_eq_decide, decide_eq_true_eq]
  omega

end Lease

namespace Service

/-! ## One request -/

/-- A request under the token asks to run a line, its body is valid, and the answer is neither that
the token is not known nor that there were too many requests.  A request whose body cannot be read
or is not valid is answered before the service counts it. -/
def Passes (gateway : Gateway) (token : Text) (moment : Moment) (call : Call)
    (service : Service) : Prop :=
  gateway.orderToken? call = some token ∧
    Response.status? (service.respond gateway moment call).1 ≠ some 401 ∧
    Response.status? (service.respond gateway moment call).1 ≠ some 429

instance (gateway : Gateway) (token : Text) (moment : Moment) (call : Call) (service : Service) :
    Decidable (service.Passes gateway token moment call) :=
  inferInstanceAs (Decidable (_ ∧ _ ∧ _))

/-- What a request to run a line under the token does to the lease, and the status of the answer. -/
inductive Treats (token : Text) (now : Int) (service : Service) (status : Option Nat)
    (after : Service) : Prop
  /-- There is no lease, or it is over. -/
  | refused (unauthorized : status = some 401) (gone : after.find? token = none)
  /-- As many requests count as are allowed. -/
  | held {lease kept : Lease} (found : service.find? token = some lease)
      (full : ¬ lease.HasRoom service.config now) (too_many : status = some 429)
      (keeps : after.find? token = some kept)
      (admitted : kept.admitted = lease.counted service.config now)
  /-- The request is let through. -/
  | passed {lease kept : Lease} (found : service.find? token = some lease)
      (room : lease.HasRoom service.config now) (served : status ≠ some 401 ∧ status ≠ some 429)
      (keeps : after.find? token = some kept)
      (admitted : kept.admitted = lease.counted service.config now ++ [now])

variable {gateway : Gateway} {token : Text} {service : Service}

/-- **A request to run a line is treated in one of the three ways.** -/
lemma treats (hsends : gateway.Sends) {call : Call} (h : gateway.orderToken? call = some token)
    (moment : Moment) (service : Service) :
    service.Treats token moment.now (Response.status? (service.respond gateway moment call).1)
      (service.respond gateway moment call).2 := by
  obtain ⟨authorization, order, hact, htoken⟩ := Gateway.orderToken?_eq_some_iff.1 h
  have hasks : (Act.run authorization order).token? = some token := htoken
  have hanswer := @respond_of_token gateway service moment token call _ hact hasks
  have hleft := @find?_respond_of_token gateway service moment token call _ hact hasks
  rw [hanswer]
  cases hfound : service.find? token with
  | none =>
      rw [hfound] at hleft
      exact .refused (hsends.status?_refusal (by decide)) hleft
  | some lease =>
      rw [hfound, Lease.serve?] at hleft
      rw [Lease.serve?]
      cases hover : lease.isOver moment.now with
      | true =>
          rw [hover] at hleft
          exact .refused (hsends.status?_refusal (by decide)) hleft
      | false =>
          rw [hover, if_neg Bool.false_ne_true] at hleft
          rw [if_neg Bool.false_ne_true]
          have hserves := Lease.serves_run service.config moment.now lease authorization order
          generalize lease.serve service.config moment.now (.run authorization order) = served
            at hleft hserves ⊢
          cases hserves with
          | tooMany hfull =>
              exact .held hfound hfull (hsends.status?_refusal (by decide)) hleft rfl
          | left hroom _ =>
              have hstatus : Response.status? (gateway.deliver (.ok (.error .terminated)))
                  = some 409 := hsends.status?_refusal (by decide)
              exact .passed hfound hroom (by simp [hstatus]) hleft rfl
          | ran hroom _ =>
              refine .passed hfound hroom ?_ hleft rfl
              cases Output.ofRun service.config _ with
              | error fault => simp [Except.map, Gateway.deliver, Except.bind, Response.status?,
                  Except.toOption]
              | ok output => simp [Except.map, hsends.status?_reply]

/-- What counts on the lease of the token is the same afterwards, if the lease is still there. -/
def Spares (token : Text) (service after : Service) : Prop :=
  ∀ kept, after.find? token = some kept →
    ∃ lease, service.find? token = some lease ∧ kept.admitted = lease.admitted

/-- **Whatever else is asked of the service spares the lease**, one case for each thing that a call
can ask for. -/
lemma spares {moment : Moment} {call : Call} (horder : gateway.orderToken? call ≠ some token)
    (hfresh : ∀ client, gateway.read call = .ok (.create client) → moment.token ≠ token) :
    Spares token service (service.respond gateway moment call).2 := by
  intro kept hkept
  rw [find?_respond, leaseAfter] at hkept
  split at hkept
  · next client hact =>
      rw [if_neg (hfresh client hact)] at hkept
      exact ⟨kept, hkept, rfl⟩
  · next act _ hact =>
      split_ifs at hkept with htoken
      · obtain ⟨lease, hfound, hserve⟩ := Lease.exists_of_serve? hkept
        rw [hserve] at hkept
        cases act with
        | run authorization order =>
            exact absurd (Gateway.orderToken?_eq_some_iff.2 ⟨_, _, hact, htoken⟩) horder
        | delete authorization => cases hkept
        | commands authorization =>
            cases hkept
            exact ⟨lease, hfound, rfl⟩
        | health | create client => cases htoken
      · exact ⟨kept, hkept, rfl⟩
  · exact ⟨kept, hkept, rfl⟩

/-! ## Requests one after another -/

/-- When requests under the token passed, one after another. -/
def passedTimes (gateway : Gateway) (token : Text) :
    List (Moment × Call) → Service → List Int
  | [], _ => []
  | (moment, call) :: requests, service =>
    (if service.Passes gateway token moment call then [moment.now] else []) ++
      passedTimes gateway token requests (service.respond gateway moment call).2

section Requests

variable {requests : List (Moment × Call)} {moment : Moment} {call : Call}

lemma passedTimes_concat (gateway : Gateway) (token : Text) (requests : List (Moment × Call))
    (moment : Moment) (call : Call) (service : Service) :
    service.passedTimes gateway token (requests ++ [(moment, call)])
      = service.passedTimes gateway token requests ++
          if (service.after gateway requests).Passes gateway token moment call
          then [moment.now] else [] := by
  induction requests generalizing service with
  | nil => exact List.append_nil _
  | cons request requests ih =>
      obtain ⟨earlier, asked⟩ := request
      rw [List.cons_append, passedTimes, passedTimes, ih, List.append_assoc]
      rfl

lemma exists_of_mem_passedTimes {t : Int} (h : t ∈ service.passedTimes gateway token requests) :
    ∃ request ∈ requests, request.1.now = t := by
  induction requests generalizing service with
  | nil => simp [passedTimes] at h
  | cons request requests ih =>
      obtain ⟨moment, call⟩ := request
      rcases List.mem_append.1 h with hnow | hlater
      · refine ⟨(moment, call), List.mem_cons_self, ?_⟩
        split_ifs at hnow
        · exact (List.mem_singleton.1 hnow).symm
        · simp at hnow
      · obtain ⟨request, hmem, htime⟩ := ih hlater
        exact ⟨request, List.mem_cons_of_mem _ hmem, htime⟩

/-- Requests at times that do not decrease, from the time on when a lease is granted. -/
structure Timeline (gateway : Gateway) (token : Text) (service : Service)
    (requests : List (Moment × Call)) : Prop where
  /-- Nothing counts yet on the lease of the token. -/
  unspent : ∀ lease, service.find? token = some lease → lease.admitted = []
  /-- No other lease is granted under the token. -/
  fresh : ∀ request ∈ requests, ∀ client,
    gateway.read request.2 = .ok (.create client) → request.1.token ≠ token
  ordered : requests.Pairwise fun earlier later => earlier.1.now ≤ later.1.now

namespace Timeline

variable {later : List (Moment × Call)}

lemma init (h : Timeline gateway token service (requests ++ later)) :
    Timeline gateway token service requests where
  unspent := h.unspent
  fresh := fun request hmem => h.fresh request (List.mem_append_left _ hmem)
  ordered := (List.pairwise_append.1 h.ordered).1

lemma sooner (h : Timeline gateway token service (requests ++ (moment, call) :: later)) :
    ∀ request ∈ requests, request.1.now ≤ moment.now := fun request hmem =>
  (List.pairwise_append.1 h.ordered).2.2 request hmem (moment, call) List.mem_cons_self

/-- **What counts on a lease is what passed and is recent enough**, by induction on the last
request.  What was forgotten before is not recent enough either. -/
lemma counted_after (h : Timeline gateway token service requests) (hsends : gateway.Sends)
    {lease : Lease} (hfound : (service.after gateway requests).find? token = some lease) {now : Int}
    (hnow : ∀ request ∈ requests, request.1.now ≤ now) :
    lease.counted service.config now =
      (service.passedTimes gateway token requests).filter fun t =>
        now - t ≤ service.config.rateWindow := by
  induction requests using List.reverseRecOn generalizing lease now with
  | nil => simp [Lease.counted, h.unspent lease hfound, passedTimes]
  | append_singleton requests request ih =>
      obtain ⟨moment, call⟩ := request
      have hmoment : moment.now ≤ now := hnow (moment, call) (by simp)
      have hsooner : ∀ request ∈ requests, request.1.now ≤ now :=
        fun request hmem => hnow request (by simp [hmem])
      rw [after_concat] at hfound
      rw [passedTimes_concat, List.filter_append]
      by_cases horder : gateway.orderToken? call = some token
      · cases treats hsends horder moment (service.after gateway requests) with
        | refused _ hgone =>
            rw [hgone] at hfound
            cases hfound
        | held hold _ hmany hkept hadmitted =>
            rw [hkept] at hfound
            cases hfound
            rw [if_neg fun hpasses => hpasses.2.2 hmany, List.filter_nil, List.append_nil,
              ← ih h.init hold hsooner, Lease.counted, hadmitted, config_after,
              Lease.counted_counted hmoment]
        | passed hold _ hserved hkept hadmitted =>
            rw [hkept] at hfound
            cases hfound
            rw [if_pos ⟨horder, hserved⟩, ← ih h.init hold hsooner, Lease.counted, hadmitted,
              config_after, List.filter_append, Lease.counted_counted hmoment]
      · obtain ⟨old, hold, hadmitted⟩ :=
          spares horder (h.fresh (moment, call) (by simp)) lease hfound
        rw [if_neg fun hpasses => horder hpasses.1, List.filter_nil, List.append_nil,
          ← ih h.init hold hsooner, Lease.counted, hadmitted, Lease.counted]

end Timeline

/-! ## Every window -/

/-- How many of some times lie in the window of the rate limit that begins with `first`. -/
def countIn (config : Config) (first : Int) (times : List Int) : Nat :=
  times.countP fun t => first ≤ t ∧ t ≤ first + config.rateWindow

/-- A window that a time lies in holds no more earlier times than the one that ends with it. -/
lemma countIn_le {config : Config} {first now : Int} {times : List Int}
    (hwindow : first ≤ now ∧ now ≤ first + config.rateWindow) (hsooner : ∀ t ∈ times, t ≤ now) :
    countIn config first times ≤ countIn config (now - config.rateWindow) times := by
  refine List.countP_mono_left fun t hmem => ?_
  have hle := hsooner t hmem
  simp only [decide_eq_true_eq]
  omega

lemma countIn_singleton (config : Config) (first now : Int) :
    countIn config first [now] =
      if first ≤ now ∧ now ≤ first + config.rateWindow then 1 else 0 := by
  simp [countIn, List.countP_singleton]

namespace Timeline

/-- A lease has room exactly if too few requests passed in the window that ends now. -/
lemma hasRoom_iff (h : Timeline gateway token service requests) (hsends : gateway.Sends)
    {lease : Lease} (hfound : (service.after gateway requests).find? token = some lease) {now : Int}
    (hnow : ∀ request ∈ requests, request.1.now ≤ now) :
    lease.HasRoom (service.after gateway requests).config now ↔
      (countIn service.config (now - service.config.rateWindow)
        (service.passedTimes gateway token requests) : Int) < service.config.rateMax := by
  have hcount : countIn service.config (now - service.config.rateWindow)
      (service.passedTimes gateway token requests) = (lease.counted service.config now).length := by
    rw [h.counted_after hsends hfound hnow, countIn, ← List.countP_eq_length_filter]
    refine List.countP_congr fun t hmem => ?_
    obtain ⟨request, hrequest, rfl⟩ := exists_of_mem_passedTimes hmem
    have hsooner := hnow request hrequest
    simp only [decide_eq_true_eq]
    omega
  rw [Lease.HasRoom, config_after, hcount]

/-- A request passes only if the window that ends with it had room. -/
lemma countIn_lt_of_passes (h : Timeline gateway token service (requests ++ [(moment, call)]))
    (hsends : gateway.Sends)
    (hpasses : (service.after gateway requests).Passes gateway token moment call) :
    (countIn service.config (moment.now - service.config.rateWindow)
      (service.passedTimes gateway token requests) : Int) < service.config.rateMax := by
  cases treats hsends hpasses.1 moment (service.after gateway requests) with
  | refused hunknown _ => exact absurd hunknown hpasses.2.1
  | held _ _ hmany _ _ => exact absurd hmany hpasses.2.2
  | passed hfound hroom _ _ _ => exact (h.init.hasRoom_iff hsends hfound h.sooner).1 hroom

/-- **No window holds too many requests that passed**, by induction on the last request: if it is in
the window, so are all requests that passed before it and still count. -/
lemma countIn_le_rateMax (h : Timeline gateway token service requests) (hsends : gateway.Sends)
    (hmax : 0 ≤ service.config.rateMax) (first : Int) :
    (countIn service.config first (service.passedTimes gateway token requests) : Int)
      ≤ service.config.rateMax := by
  induction requests using List.reverseRecOn with
  | nil => simpa [passedTimes, countIn] using hmax
  | append_singleton requests request ih =>
      obtain ⟨moment, call⟩ := request
      have hless := ih h.init
      have hsplit : countIn service.config first
          (service.passedTimes gateway token (requests ++ [(moment, call)])) =
            countIn service.config first (service.passedTimes gateway token requests) +
              countIn service.config first
                (if (service.after gateway requests).Passes gateway token moment call
                  then [moment.now] else []) := by
        rw [passedTimes_concat, countIn, List.countP_append, ← countIn, ← countIn]
      rw [hsplit]
      split_ifs with hpasses
      · have hroom := h.countIn_lt_of_passes hsends hpasses
        rw [countIn_singleton]
        split_ifs with hwindow
        · have hle := @countIn_le service.config first moment.now
            (service.passedTimes gateway token requests) hwindow fun t hmem => by
              obtain ⟨request, hrequest, rfl⟩ := exists_of_mem_passedTimes hmem
              exact h.sooner request hrequest
          omega
        · exact hless
      · exact hless

end Timeline

end Requests

/-- **The rate limit holds over every window.**  From the time on when a lease is granted, and
however the requests are answered that come then, no more requests than allowed pass in any window.
A request to run a line, if its body is valid and its token is known, is held up exactly if that
many passed before it in the window that ends with it, so those that were held up or refused do not
count. -/
theorem rate_limit_every_window {gateway : Gateway} (hsends : gateway.Sends)
    {requests : List (Moment × Call)} (h : Timeline gateway token service requests)
    (hmax : 0 ≤ service.config.rateMax) :
    (∀ first, (countIn service.config first (service.passedTimes gateway token requests) : Int)
      ≤ service.config.rateMax) ∧
    ∀ earlier moment call later, requests = earlier ++ (moment, call) :: later →
      gateway.orderToken? call = some token →
      let status := Response.status? ((service.after gateway earlier).respond gateway moment call).1
      status ≠ some 401 →
      (status = some 429 ↔
        service.config.rateMax ≤ countIn service.config (moment.now - service.config.rateWindow)
          (service.passedTimes gateway token earlier)) := by
  refine ⟨h.countIn_le_rateMax hsends hmax, ?_⟩
  rintro earlier moment call later rfl horder status hknown
  cases treats hsends horder moment (service.after gateway earlier) with
  | refused hunknown _ => exact absurd hunknown hknown
  | held hfound hfull hmany _ _ =>
      rw [h.init.hasRoom_iff hsends hfound h.sooner, Int.not_lt] at hfull
      exact iff_of_true hmany hfull
  | passed hfound hroom hserved _ _ =>
      rw [h.init.hasRoom_iff hsends hfound h.sooner] at hroom
      exact iff_of_false hserved.2 (Int.not_le.2 hroom)

/-- A service that lets one request pass in five seconds, after it lent a shell. -/
def sparing : Service := (({ config := { rateMax := 1 } } : Service).handle ⟨0, "t"⟩ grantCall).2

/-- Three requests of the holder of the shell: at once, five seconds later, and after those. -/
def hurried : List (Moment × Call) :=
  [(⟨0, "u"⟩, orderCall "true"), (⟨5, "u"⟩, orderCall "true"), (⟨6, "u"⟩, orderCall "true")]

lemma timeline_hurried : Timeline (.standard {}) "t" sparing hurried where
  unspent := by
    intro lease hfound
    have hgranted : sparing.find? "t" = some (.grant { rateMax := 1 } [] 0) := find?_put_self ..
    rw [hgranted] at hfound
    cases hfound
    rfl
  fresh := by
    intro request hmem client _
    simp only [hurried, List.mem_cons, List.not_mem_nil, or_false] at hmem
    rcases hmem with rfl | rfl | rfl <;> decide
  ordered := by decide

/-- The second request is still in a window with the first one, the third one is not. -/
theorem rate_limit_every_window_hurried :
    (∀ first, countIn sparing.config first (sparing.passedTimes (.standard {}) "t" hurried) ≤ 1) ∧
      Response.status? ((sparing.after (.standard {}) (hurried.take 1)).handle ⟨5, "u"⟩
        (orderCall "true")).1 = some 429 ∧
      Response.status? ((sparing.after (.standard {}) (hurried.take 2)).handle ⟨6, "u"⟩
        (orderCall "true")).1 ≠ some 429 := by
  obtain ⟨hwindows, hheld⟩ :=
    rate_limit_every_window (Gateway.sends_standard {} false) timeline_hurried (by decide)
  refine ⟨fun first => Int.ofNat_le.1 (hwindows first), ?_, fun hmany => ?_⟩
  · exact (hheld _ _ _ _ rfl (by decide +kernel) (by decide +kernel)).2 (by decide +kernel)
  · have hfull := (hheld (hurried.take 2) _ _ _ rfl (by decide +kernel) (by decide +kernel)).1 hmany
    exact absurd hfull (by decide +kernel)

/-- Requests with a body that cannot be read are answered before they are counted: two of them come
in one window, and neither is refused for its fields, for its token or as one too many. -/
theorem unreadable_past_limit :
    let first := sparing.handle ⟨0, "u"⟩ brokenOffCall
    let second := first.2.handle ⟨1, "v"⟩ brokenOffCall
    brokenOffCall.IsFor .run ∧ (Gateway.standard {}).bears "t" brokenOffCall = true ∧
      Response.status? first.1 ∉ [some 401, some 422, some 429] ∧
      Response.status? second.1 ∉ [some 401, some 422, some 429] ∧
      sparing.config.rateMax < countIn sparing.config 0 [0, 1] := by
  decide +kernel

end Service

end PipedShell
