import PipedShell.Service.Standard

/-!
# The service

The service lends shells over HTTP.  It holds its settings and the leases by token; what time it
is and which token the next lease gets come with each request, so that what the service does is a
function of the requests.

* `Service` is the state; `Service.find?`, `Service.put` and `Service.drop` are its table of leases.
* `Service.authorize` finds the lease of an authorization.  A lease whose time is up is dropped.
* `Service.perform` does what a call asks for.
* `Service.respond` answers the calls that come through a gateway, or breaks with a fault if the
  command that was run is broken or the response cannot be sent.
* `Service.handle` is the same through the standard gateway.
-/

namespace PipedShell

/-- The service: its settings and the leases by token. -/
structure Service where
  config : Config := {}
  leases : List (Text × Lease) := []

/-- When a request comes, and which token it gets if it is granted a lease. -/
structure Moment where
  /-- The time in the unit of the settings, which is a second.  Where the clock tells fractions, the
  unit is one in which they are whole, and the settings count in that unit too. -/
  now : Int
  token : Text
  deriving DecidableEq, Repr

namespace Service

/-- The lease of a token. -/
def find? (token : Text) (service : Service) : Option Lease := service.leases.lookup token

/-- Takes the lease of a token out. -/
def drop (token : Text) (service : Service) : Service :=
  { service with leases := service.leases.filter fun entry => entry.1 != token }

/-- Puts a lease under a token, in place of the one there. -/
def put (token : Text) (lease : Lease) (service : Service) : Service :=
  { service with leases := (token, lease) :: (service.drop token).leases }

/-- A lease that was taken out is gone. -/
theorem find?_drop_self (token : Text) (service : Service) :
    (service.drop token).find? token = none := by
  simp only [find?, drop, List.lookup_eq_none_iff, List.mem_filter]
  rintro entry ⟨_, h⟩
  simpa [bne, BEq.comm] using h

/-- Taking a lease out leaves those of other tokens alone. -/
theorem find?_drop_of_ne {token other : Text} (service : Service) (h : other ≠ token) :
    (service.drop token).find? other = service.find? other := by
  simp only [find?, drop]
  induction service.leases with
  | nil => rfl
  | cons entry entries ih =>
    obtain ⟨key, lease⟩ := entry
    by_cases hk : key = token
    · have hne : (other == token) = false := by simpa using h
      simp [List.lookup_cons, hk, hne, ih]
    · simp [List.lookup_cons, hk, ih]

/-- A lease put under a token is found there. -/
theorem find?_put_self (token : Text) (lease : Lease) (service : Service) :
    (service.put token lease).find? token = some lease := by
  simp [find?, put]

/-- Putting a lease under a token leaves those of other tokens alone. -/
theorem find?_put_of_ne {token other : Text} (lease : Lease) (service : Service)
    (h : other ≠ token) : (service.put token lease).find? other = service.find? other := by
  have hne : (other == token) = false := by simpa using h
  rw [← find?_drop_of_ne service h]
  simp [find?, put, List.lookup_cons, hne]

/-- Finds the lease of an authorization and notes that it is used. -/
def authorize (now : Int) (authorization : Option Text) (service : Service) :
    Except Refusal (Text × Lease) × Service :=
  match bearerToken? authorization with
  | none => (.error .noToken, service)
  | some token =>
    match service.find? token with
    | none => (.error .unknownToken, service)
    | some lease =>
      if lease.isOver now then (.error .expired, service.drop token)
      else (.ok (token, lease.touch now), service.put token (lease.touch now))

/-- Does something with the lease of an authorization. -/
def withLease (now : Int) (authorization : Option Text) (service : Service)
    (use : Text → Lease → Service → Attempt Service (Except Refusal Reply)) :
    Attempt Service (Except Refusal Reply) :=
  match service.authorize now authorization with
  | (.error refusal, after) => (.ok (.error refusal), after)
  | (.ok (token, lease), after) => use token lease after

/-- Runs a line on the shell of a lease, if not too many were run lately and the shell was not
left. -/
def runOrder (now : Int) (order : Order) (token : Text) (lease : Lease) (service : Service) :
    Attempt Service (Except Refusal Reply) :=
  match lease.letThrough service.config now with
  | (false, lease) => (.ok (.error .tooMany), service.put token lease)
  | (true, lease) =>
    if lease.terminated then (.ok (.error .terminated), service.put token lease)
    else match lease.run service.config order with
      | (.ok output, lease) => (.ok (.ok (.ran output)), service.put token lease)
      | (.error fault, lease) => (.error fault, service.put token lease)

/-- Does what a call asks for. -/
def perform (moment : Moment) (service : Service) :
    Act → Attempt Service (Except Refusal Reply)
  | .health => (.ok (.ok .healthy), service)
  | .create client =>
    (.ok (.ok (.created moment.token service.config.sessionTtl)),
      service.put moment.token (.grant service.config client moment.now))
  | .delete authorization =>
    service.withLease moment.now authorization fun token _ after =>
      (.ok (.ok .deleted), after.drop token)
  | .commands authorization =>
    service.withLease moment.now authorization fun _ lease after =>
      (.ok (.ok (.commands (lease.shell.commands.toList.map (·.spec)))), after)
  | .run authorization order =>
    service.withLease moment.now authorization (runOrder moment.now order)

/-- Answers a call that comes through a gateway. -/
def respond (gateway : Gateway) (moment : Moment) (call : Call) (service : Service) :
    Attempt Service Response :=
  match gateway.read call with
  | .error rejection => (gateway.reject rejection, service)
  | .ok act =>
    let (result, after) := service.perform moment act
    (gateway.deliver result, after)

/-- Answers a call that comes through the standard gateway.  The gateway reads requests within the
limits of the settings that the service was loaded with. -/
def handle (moment : Moment) (call : Call) (service : Service) (loaded : Config := {}) :
    Attempt Service Response :=
  service.respond (.standard loaded) moment call

end Service

end PipedShell
