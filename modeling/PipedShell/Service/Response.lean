import PipedShell.Command.Spec
import PipedShell.Json
import PipedShell.Service.Lease

/-!
# What the service answers

* `Reply` is what comes out when the service does what it was asked for, `Refusal` why it does not.
* `Response` is what is sent: a status and a body.  `Response.of` is the response to either.
-/

namespace PipedShell

/-- The answer to a call. -/
structure Response where
  status : Nat
  /-- The body if it is JSON. -/
  body? : Option Json

/-- What the service says when it does what was asked for. -/
inductive Reply where
  | healthy
  | created (token : Text) (lifetime : Int)
  | deleted
  | commands (specs : List Spec)
  | ran (output : Output)
  deriving DecidableEq, Repr

namespace Reply

/-- A command in a list. -/
def commandJson (spec : Spec) : Json :=
  .obj [("name", .str spec.name), ("description", .str spec.description),
    ("usage", .str spec.usage)]

/-- What running a line gave. -/
def outputJson (output : Output) : Json :=
  .obj [("stdout", .str output.stdout), ("stderr", .str output.stderr),
    ("exitCode", .int output.exitCode), ("terminated", .bool output.terminated),
    ("truncated", .bool output.truncated)]

/-- The data of a response. -/
def data : Reply → Json
  | healthy => .obj [("status", .str "ok")]
  | created token lifetime => .obj [("sessionToken", .str token), ("expiresInSec", .int lifetime)]
  | deleted => .obj [("message", .str "session closed")]
  | commands specs => .obj [("commands", .arr (specs.map commandJson))]
  | ran output => outputJson output

end Reply

/-- Why the service refuses a request. -/
inductive Refusal where
  /-- The body does not say what the operation needs; the errors tell what does not fit. -/
  | invalidBody (errors : List Json)
  /-- The request names no token. -/
  | noToken
  /-- The token belongs to no lease. -/
  | unknownToken
  /-- The lease of the token is over. -/
  | expired
  /-- There were too many requests to run lines. -/
  | tooMany
  /-- The shell was left by a command. -/
  | terminated

namespace Refusal

/-- The status of the response. -/
def status : Refusal → Nat
  | noToken | unknownToken | expired => 401
  | terminated => 409
  | invalidBody _ => 422
  | tooMany => 429

/-- A code, a message and details. -/
def envelope (code message : Text) (details : List (Text × Json)) : Json :=
  .obj [("ok", .bool false),
    ("error", .obj [("code", .str code), ("message", .str message), ("details", .obj details)])]

/-- What the response says. -/
def body : Refusal → Json
  | invalidBody errors =>
    envelope "VALIDATION_ERROR" "invalid request body" [("errors", .arr errors)]
  | noToken => envelope "UNAUTHORIZED" "Authorization: Bearer <token> is required" []
  | unknownToken => envelope "UNAUTHORIZED" "unknown or expired session, call /session again" []
  | expired => envelope "UNAUTHORIZED" "session expired, call /session again" []
  | tooMany => envelope "RATE_LIMITED" "too many terminal requests, slow down" []
  | terminated => envelope "SESSION_TERMINATED" "the shell has exited, create a new session" []

end Refusal

/-- The response that says what came out. -/
def Response.of : Except Refusal Reply → Response
  | .ok reply => ⟨200, some (.obj [("ok", .bool true), ("data", reply.data)])⟩
  | .error refusal => ⟨refusal.status, some refusal.body⟩

end PipedShell
