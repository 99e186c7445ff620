import PipedShell.Builtin
import PipedShell.Json
import PipedShell.Limits
import PipedShell.Session.Execution

/-!
# Leases of shells

The service lends a shell to whoever holds its token, for a time that is fixed when the lease is
granted.

* `Lease` is a shell on loan; `Lease.grant` lends a new one.
* `Lease.isOver` tells whether its time is up, `Lease.touch` notes that it is used.
* `Lease.letThrough` counts the requests of the last seconds and lets one more through or not.
* `Lease.run` runs a line on the shell and collects what it wrote.
-/

namespace PipedShell

/-- A shell on loan. -/
structure Lease where
  createdAt : Int
  lastSeenAt : Int
  expiresAt : Int
  /-- What the holder of the token says about itself. -/
  client : List (Text × Json)
  shell : Session
  /-- A command asked to leave the shell. -/
  terminated : Bool := false
  /-- When the requests that still count were let through. -/
  admitted : List Int := []

/-- A line to run and the text of its standard input. -/
structure Order where
  command : Text
  stdin : Text := []
  deriving DecidableEq, Repr

/-- What running a line gives to whoever ordered it. -/
structure Output where
  stdout : Text
  stderr : Text
  exitCode : Int
  /-- The shell was left. -/
  terminated : Bool
  /-- The standard output was cut down. -/
  truncated : Bool
  deriving DecidableEq, Repr

namespace Lease

/-- Lends a new shell. -/
def grant (config : Config) (client : List (Text × Json)) (now : Int) : Lease :=
  { createdAt := now
    lastSeenAt := now
    expiresAt := now + config.sessionTtl
    client
    shell := .start config Builtin.commands (none, none) [] }

/-- The time of the lease is up; at its last moment it is not. -/
def isOver (now : Int) (lease : Lease) : Bool := lease.expiresAt < now

/-- Notes that the lease is used. -/
def touch (now : Int) (lease : Lease) : Lease := { lease with lastSeenAt := now }

/-- The requests let through that still count. -/
def counted (config : Config) (now : Int) (lease : Lease) : List Int :=
  lease.admitted.filter fun t => now - t ≤ config.rateWindow

/-- Lets one more request through unless as many as allowed count; also whether it was let
through. -/
def letThrough (config : Config) (now : Int) (lease : Lease) : Bool × Lease :=
  let counted := lease.counted config now
  if (counted.length : Int) ≥ config.rateMax then (false, { lease with admitted := counted })
  else (true, { lease with admitted := counted ++ [now] })

/-- The shell with a standard input to read and nothing written yet. -/
def prepare (stdin : Text) (lease : Lease) : Session :=
  lease.shell.withFreshOutput.setStdin stdin

/-- Runs a line without the blanks at its ends. -/
def run (config : Config) (order : Order) (lease : Lease) : Attempt Lease Output :=
  match (lease.prepare order.stdin).runLine order.command.trim with
  | (.error fault, shell) => (.error fault, { lease with shell })
  | (.ok outcome, shell) =>
    let terminated := lease.terminated || outcome.isTerminate
    let (stdout, truncated) := truncate shell.stdout config.maxOutputBytes
    let (stderr, _) := truncate shell.stderr config.maxOutputBytes
    (.ok { stdout, stderr, exitCode := outcome.code, terminated, truncated },
      { lease with shell, terminated })

end Lease

end PipedShell
