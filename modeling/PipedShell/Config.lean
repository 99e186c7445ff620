import PipedShell.Field

/-!
# Configuration

The settings of a shell and of the service, with their defaults.  Settings come from named values
or from environment variables; a value that does not fit its field is reported, and all that do
not fit are reported together, in the order of the fields.

* `Config` is the settings, `Config.read` reads them from named values.
* `Config.ofEnvironment` reads the variables whose names are a common beginning and the name of a
  field in capitals.
-/

namespace PipedShell

/-- The settings of a shell and of the service. -/
structure Config where
  /-- What the shell shows when it waits for a line. -/
  prompt : Text := "CLI> "
  /-- The most characters of a line. -/
  maxInputChars : Int := 1250
  /-- The most stages of a line. -/
  maxPipeStages : Int := 8
  /-- The most bytes of output in a response. -/
  maxOutputBytes : Int := 50000
  /-- Whether `&&` and `||` skip ranges. -/
  shortCircuit : Bool := false
  /-- How many seconds a session of the service lives. -/
  sessionTtl : Int := 604800
  /-- Over how many seconds requests are counted. -/
  rateWindow : Int := 5
  /-- The most requests in that time. -/
  rateMax : Int := 25
  deriving DecidableEq, Repr

namespace Config

/-- The names of the fields, in their order. -/
def fieldNames : List Text :=
  ["prompt", "max_input_chars", "max_pipe_stages", "max_output_bytes", "short_circuit",
    "session_ttl_sec", "rate_window_sec", "rate_max"]

/-- Reads one field if it is given, and adds its fault to the list if it does not fit. -/
def readField {α : Type} (name : Text) (standard : α) (reader : Json → Except FieldFault α)
    (values : Text → Option Json) : α × List FieldError :=
  match values name with
  | none => (standard, [])
  | some value =>
    match reader value with
    | .ok given => (given, [])
    | .error fault => (standard, [⟨[.name name], fault⟩])

/-- Settings from named values; a field without a value has its default. -/
def read (values : Text → Option Json) : Except (List FieldError) Config :=
  let standard : Config := {}
  let (prompt, e₁) := readField "prompt" standard.prompt Field.text values
  let (maxInputChars, e₂) :=
    readField "max_input_chars" standard.maxInputChars (Field.atLeast 1) values
  let (maxPipeStages, e₃) :=
    readField "max_pipe_stages" standard.maxPipeStages (Field.atLeast 1) values
  let (maxOutputBytes, e₄) :=
    readField "max_output_bytes" standard.maxOutputBytes (Field.atLeast 1) values
  let (shortCircuit, e₅) := readField "short_circuit" standard.shortCircuit Field.truth values
  let (sessionTtl, e₆) := readField "session_ttl_sec" standard.sessionTtl (Field.atLeast 1) values
  let (rateWindow, e₇) := readField "rate_window_sec" standard.rateWindow (Field.atLeast 1) values
  let (rateMax, e₈) := readField "rate_max" standard.rateMax (Field.atLeast 1) values
  match e₁ ++ e₂ ++ e₃ ++ e₄ ++ e₅ ++ e₆ ++ e₇ ++ e₈ with
  | [] => .ok { prompt, maxInputChars, maxPipeStages, maxOutputBytes, shortCircuit, sessionTtl,
                rateWindow, rateMax }
  | errors => .error errors

/-- The beginning of the names of all variables that are settings. -/
def variableStem : Text := "PIPESHELL_"

/-- The variable of a field. -/
def variableName (field : Text) : Text := variableStem ++ field.map Char.toUpper

/-- Settings from environment variables. -/
def ofEnvironment (environment : Text → Option Json) : Except (List FieldError) Config :=
  read fun field => environment (variableName field)

/-- The settings as named values. -/
def toJson (config : Config) : Json :=
  .obj [("prompt", .str config.prompt), ("max_input_chars", .int config.maxInputChars),
    ("max_pipe_stages", .int config.maxPipeStages),
    ("max_output_bytes", .int config.maxOutputBytes),
    ("short_circuit", .bool config.shortCircuit), ("session_ttl_sec", .int config.sessionTtl),
    ("rate_window_sec", .int config.rateWindow), ("rate_max", .int config.rateMax)]

end Config

end PipedShell
