import PipedShell.Config
import PipedShell.Json.Strict
import PipedShell.Service.Call
import PipedShell.Text.Encoding

/-!
# The standard gateway

A gateway that can be run.  It stands for the framework as it is installed beside the service:
requests that ask for no operation get a plain detail or are sent to the right path, bodies are JSON
in one of the encodings of Unicode, and all that does not fit in a body is reported together.  It
takes every body for the JSON that clients of the service declare it to be.

* `Misfit` is what does not fit in a body, `Misfit.toJson` how it is reported.
* `Standard.route`, `Standard.readClient` and `Standard.readOrder` are the parts of the gateway.
* `Gateway.standard` puts them together.  An order is read with the limits of given settings.
-/

namespace PipedShell

/-- A fault of a field of a body, or of the whole body. -/
structure Misfit where
  error : FieldError
  /-- What was given, or for a missing field what it is missing from. -/
  given : Json

namespace Misfit

/-- A fault of a field of a body, or of the body as a whole, and what was given. -/
def ofBody (place : List PlaceStep) (fault : FieldFault) (given : Json) : Misfit :=
  ⟨⟨.name "body" :: place, fault⟩, given⟩

/-- The way to a field. -/
def placeJson (place : List PlaceStep) : Json :=
  .arr (place.map fun
    | .name name => .str name
    | .position n => .int n)

/-- A fault of a field, with what was given. -/
def toJson (misfit : Misfit) : Json :=
  let fault := misfit.error.fault
  let context := match fault.context with
    | [] => []
    | members => [("ctx".toList, Json.obj members)]
  .obj ([("type".toList, .str fault.code), ("loc".toList, placeJson misfit.error.place),
    ("msg".toList, .str fault.message), ("input".toList, misfit.given)] ++ context)

end Misfit

/-- The body of a request is refused for what does not fit in it. -/
def Rejection.ofMisfits (misfits : List Misfit) : Rejection :=
  .misfits (misfits.map Misfit.toJson)

namespace Standard

/-! ## Finding the operation -/

/-- A response with a plain detail. -/
def detail (status : Nat) (text : Text) : Response := ⟨status, some (.obj [("detail", .str text)])⟩

/-- Some operation has this path. -/
def isPath (path : Text) : Bool := Route.all.any fun route => route.path == path

/-- A path without slashes at its end. -/
def withoutSlashes (path : Text) : Text := (path.reverse.dropWhile (· == '/')).reverse

/-- The operation at a path with a method.  A path that is right but for slashes at its end is
moved. -/
def route (call : Call) : Except Response Route :=
  match Route.all.find? fun route => call.IsFor route with
  | some route => .ok route
  | none =>
    if isPath call.path then .error (detail 405 "Method Not Allowed")
    else if isPath (withoutSlashes call.path) then .error ⟨307, none⟩
    else .error (detail 404 "Not Found")

/-! ## Reading the body -/

/-- The answer to a body that is beyond what is read. -/
def unreadable : Rejection := .answered (detail 400 "There was an error parsing the body")

/-- A body as a JSON value, none for an empty one.  Its first bytes tell how it is encoded. -/
def readJson (body : Text) : Except Rejection (Option Json) :=
  if body.isEmpty then .ok none
  else match Received.read? body with
    | none => .error unreadable
    | some received =>
      match Json.decode received.text received.halves with
      | .ok value => .ok (some value)
      | .error (.malformed rest) =>
        let place := received.text.length - rest
        .error (.ofMisfits [.ofBody [.position place] .notJson (.obj [])])
      | .error .integerTooLong | .error .nestedTooDeep => .error unreadable

/-- The body of a request, if it has one.  Releases of the framework differ in whether a body that
is `null` counts as none. -/
def readBody (nullIsNone : Bool) (call : Call) : Except Rejection (Option Json) :=
  (readJson call.body).map fun body => body.filter fun
    | .null => !nullIsNone
    | _ => true

/-- The members of what has to be an object or `null`; none at all if it is left out. -/
def readObject : Option Json → Except FieldFault (List (Text × Json))
  | none | some .null => .ok []
  | some (.obj members) => .ok members
  | some _ => .error .notObject

/-- What the body of a request for a lease says about the client; nothing if there is no body. -/
def readClient (nullIsNone : Bool) (call : Call) : Except Rejection (List (Text × Json)) :=
  match readBody nullIsNone call with
  | .error rejection => .error rejection
  | .ok none => .ok []
  | .ok (some (.obj members)) =>
    let given := (Json.obj members).member? "client"
    match readObject given with
    | .ok client => .ok client
    | .error fault => .error (.ofMisfits [.ofBody [.name "client"] fault (given.getD .null)])
  | .ok (some other) => .error (.ofMisfits [.ofBody [] .notFields other])

/-- A text of bounded length in the member of a name; `standard` if it is left out, which is not
allowed when there is no standard. -/
def readText (name : Text) (standard : Option Text) (least most : Nat) (value : Json) :
    Except Misfit Text :=
  match value.member? name, standard with
  | none, some text => .ok text
  | none, none => .error (.ofBody [.name name] .missing value)
  | some given, _ =>
    ((Field.text given).bind (Field.sized least most)).mapError fun fault =>
      .ofBody [.name name] fault given

/-- The line that the body of a request orders to be run, within the limits of the settings. -/
def readOrder (config : Config) (nullIsNone : Bool) (call : Call) : Except Rejection Order :=
  match readBody nullIsNone call with
  | .error rejection => .error rejection
  | .ok none => .error (.ofMisfits [.ofBody [] .missing .null])
  | .ok (some (.obj members)) =>
    match readText "command" none 1 config.maxInputChars.toNat (.obj members),
        readText "stdin" (some []) 0 config.maxOutputBytes.toNat (.obj members) with
    | .ok command, .ok stdin => .ok { command, stdin }
    | .error e₁, .error e₂ => .error (.ofMisfits [e₁, e₂])
    | .error e, .ok _ | .ok _, .error e => .error (.ofMisfits [e])
  | .ok (some other) => .error (.ofMisfits [.ofBody [] .notFields other])

end Standard

/-- The standard gateway of a service with given settings. -/
def Gateway.standard (config : Config) (nullIsNone : Bool := false) : Gateway where
  route := Standard.route
  readClient := Standard.readClient nullIsNone
  readOrder := Standard.readOrder config nullIsNone
  sendingDefect? := Json.sendingDefect?

end PipedShell
