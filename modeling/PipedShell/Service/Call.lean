import PipedShell.Fault
import PipedShell.Service.Response
import PipedShell.Text.Lowercase

/-!
# Requests to the service

A request over HTTP has a method, a path and perhaps an authorization and a body.  It comes to the
service through the web framework that the service is written for.  The framework finds the
operation that the request asks for, checks the body against the fields that the operation declares,
and sends what the operation answers.  What it does with a request that asks for no operation, such
as the one by which a browser asks for permission, or with a body that is no JSON or does not fit,
is its own affair, so here it is a parameter.

* `Call` is a request, `Route` an operation with its method and path.
* `Act` is what a call asks for once it has been read.
* `bearerToken?` is the token of an authorization.
* `Gateway` is the framework.  `Gateway.read` reads a call, `Gateway.reject` answers one that does
  not come to an operation, and `Gateway.deliver` sends what an operation answers.
-/

namespace PipedShell

/-- A request over HTTP. -/
structure Call where
  method : Text
  /-- The path below the root of the service. -/
  path : Text
  authorization : Option Text := none
  /-- The other headers. -/
  headers : List (Text × Text) := []
  /-- The body, its bytes taken for UTF-8; an empty one is none. -/
  body : Text := []
  deriving DecidableEq, Repr

/-- The operations of the service. -/
inductive Route where
  | health
  | create
  | delete
  | commands
  | run
  deriving DecidableEq, Repr

namespace Route

/-- Every operation. -/
def all : List Route := [health, create, delete, commands, run]

/-- The method of an operation. -/
def method : Route → Text
  | health | commands => "GET"
  | create | run => "POST"
  | delete => "DELETE"

/-- The path of an operation. -/
def path : Route → Text
  | health => "/health"
  | create | delete => "/session"
  | commands => "/commands"
  | run => "/terminal/exec"

end Route

/-- The request asks for an operation: it has its method and its path. -/
def Call.IsFor (route : Route) (call : Call) : Prop :=
  route.method = call.method ∧ route.path = call.path

instance (route : Route) (call : Call) : Decidable (call.IsFor route) :=
  inferInstanceAs (Decidable (_ ∧ _))

/-- What a call asks for.  All but the first two need a lease, which the authorization names. -/
inductive Act where
  /-- Tell that the service works. -/
  | health
  /-- Grant a lease. -/
  | create (client : List (Text × Json))
  /-- End the lease. -/
  | delete (authorization : Option Text)
  /-- List the commands of the shell. -/
  | commands (authorization : Option Text)
  /-- Run a line. -/
  | run (authorization : Option Text) (order : Order)

/-- The token of an authorization by bearer token: what follows the first space, without blanks at
its ends. -/
def bearerToken? (authorization : Option Text) : Option Text :=
  match authorization with
  | none => none
  | some header =>
    if "bearer ".toList.isPrefixOf header.lower then
      some (Text.trim ((header.dropWhile (· != ' ')).drop 1))
    else none

/-- Why a call does not come to an operation. -/
inductive Rejection where
  /-- The framework answers on its own. -/
  | answered (response : Response)
  /-- The body does not fit, and the framework leaves the answer to the service. -/
  | misfits (errors : List Json)

/-- The web framework that brings requests to the service and sends its responses. -/
structure Gateway where
  /-- The operation that a call asks for, or what the framework answers if it asks for none. -/
  route : Call → Except Response Route
  /-- What the body of a request for a lease says about the client. -/
  readClient : Call → Except Rejection (List (Text × Json))
  /-- The line that the body of a request orders to be run. -/
  readOrder : Call → Except Rejection Order
  /-- Why a value cannot be sent as JSON. -/
  sendingDefect? : Json → Option Defect

namespace Gateway

/-- What a call asks for.  The body is read before anything else is looked at, the authorization
included. -/
def read (gateway : Gateway) (call : Call) : Except Rejection Act :=
  match gateway.route call with
  | .error response => .error (.answered response)
  | .ok .health => .ok .health
  | .ok .create => (gateway.readClient call).map .create
  | .ok .delete => .ok (.delete call.authorization)
  | .ok .commands => .ok (.commands call.authorization)
  | .ok .run => (gateway.readOrder call).map (.run call.authorization)

/-- A response that is sent, or why it cannot be. -/
def send (gateway : Gateway) (response : Response) : Except Fault Response :=
  match response.body?.bind gateway.sendingDefect? with
  | some defect => .error (.defect defect)
  | none => .ok response

/-- The answer to a call that does not come to an operation. -/
def reject (gateway : Gateway) : Rejection → Except Fault Response
  | .answered response => .ok response
  | .misfits errors => gateway.send (.of (.error (.invalidBody errors)))

/-- The answer of an operation; one that breaks has none. -/
def deliver (gateway : Gateway) (result : Except Fault (Except Refusal Reply)) :
    Except Fault Response :=
  result.bind fun outcome => gateway.send (.of outcome)

end Gateway

end PipedShell
