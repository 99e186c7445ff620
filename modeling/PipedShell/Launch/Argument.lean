import PipedShell.Config
import PipedShell.Launch.Flag
import PipedShell.Text.Digit
import PipedShell.Text.Quoted

/-!
# Reading the arguments of the program

Each argument is first looked at by itself: it is a flag, or plain, or begins with a minus sign and
is neither.  Then the arguments are gone through in order, and a flag takes its value from its own
argument or from a plain one right after it.

* A long spelling can be shortened as long as it fits one flag only; its value can follow after an
  equals sign.
* The value of a short spelling can follow directly or after an equals sign.  What follows a short
  spelling without a value goes on with the letter of another one.
* After `--` every argument is plain.  Negative numbers and arguments with a space are plain too.
  Attached to a flag, `--` is no value.

No argument is allowed that no flag takes; such arguments are reported together.

* `Argument.ofText` looks at one argument, `Bundle.ofAttached` takes several flags in one argument
  apart.
* `Options.ofArguments` reads all arguments; `Halt` is why the program does not start.
-/

namespace PipedShell.Launch

/-- What is wrong with the arguments. -/
inductive ArgumentFault where
  /-- A shortened spelling fits several. -/
  | ambiguous (given : Text) (fitting : List Text)
  /-- A flag is without its value. -/
  | valueMissing (flag : Flag)
  /-- A flag has a value that it does not take. -/
  | valueUnused (flag : Flag) (value : Text)
  /-- No flag takes these arguments. -/
  | unrecognized (arguments : List Text)
  deriving DecidableEq, Repr

/-- The wording of a fault. -/
def ArgumentFault.message : ArgumentFault → Text
  | ambiguous given fitting =>
    "ambiguous option: " ++ given ++ " could match " ++ Text.join ", " fitting
  | valueMissing flag => "argument " ++ flag.label ++ ": expected one argument"
  | valueUnused flag value =>
    "argument " ++ flag.label ++ ": ignored explicit argument " ++ value.quoted
  | unrecognized arguments => "unrecognized arguments: " ++ Text.join " " arguments

/-- What an argument is by itself. -/
inductive Argument where
  | plain
  /-- The mark after which every argument is plain. -/
  | separator
  /-- A flag in a short or a long spelling, and the text that follows it in its own argument. -/
  | flag (flag : Flag) (short : Bool) (attached : Option Text)
  /-- Neither a flag nor plain. -/
  | unknown
  deriving DecidableEq, Repr

namespace Argument

/-- A number with a minus sign and perhaps a point, in digits of any script.  A line feed at the
end counts for nothing. -/
def isNegativeNumber (arg : Text) : Bool :=
  match arg with
  | '-' :: number =>
    let body := if number.getLast? == some '\n' then number.dropLast else number
    let isDigit (c : Char) := (digitValue? c).isSome
    match body.dropWhile isDigit with
    | [] => !body.isEmpty
    | point :: fraction => point == '.' && !fraction.isEmpty && fraction.all isDigit
  | _ => false

/-- A spelling is short when it has one minus sign. -/
def isShort (spelling : Text) : Bool := !("--".toList.isPrefixOf spelling)

/-- The part before the first equals sign, and the part after it if there is one. -/
def splitEquals (arg : Text) : Text × Option Text :=
  match arg.dropWhile (· != '=') with
  | _ :: value => (arg.takeWhile (· != '='), some value)
  | [] => (arg, none)

/-- The flags that an argument can stand for by being shortened or having something attached, each
with its full spelling. -/
def fitting (arg : Text) : List (Text × Argument) :=
  if isShort arg then
    (Flag.spelled.filter fun entry => entry.1 == arg.take 2).map fun entry =>
      (entry.1, .flag entry.2 true (some (arg.drop 2)))
  else
    let (stem, attached) := splitEquals arg
    (Flag.spelled.filter fun entry => stem.isPrefixOf entry.1).map fun entry =>
      (entry.1, .flag entry.2 false attached)

/-- What an argument is when it begins with a minus sign and more follows. -/
def ofDashed (arg : Text) : Except ArgumentFault Argument :=
  match Flag.ofSpelling? arg with
  | some found => .ok (.flag found (isShort arg) none)
  | none =>
    let (stem, attached) := splitEquals arg
    match Flag.ofSpelling? stem, attached with
    | some found, some value => .ok (.flag found (isShort arg) (some value))
    | _, _ =>
      match fitting arg with
      | [(_, found)] => .ok found
      | [] => .ok (if isNegativeNumber arg || arg.elem ' ' then .plain else .unknown)
      | several => .error (.ambiguous arg (several.map (·.1)))

/-- What an argument is by itself. -/
def ofText (arg : Text) : Except ArgumentFault Argument :=
  match arg with
  | '-' :: _ :: _ => ofDashed arg
  | _ => .ok .plain

/-- What each of the arguments is. -/
def ofTexts : List Text → Except ArgumentFault (List (Text × Argument))
  | [] => .ok []
  | arg :: rest =>
    if arg == "--" then .ok ((arg, .separator) :: rest.map fun later => (later, .plain))
    else do
      let here ← ofText arg
      let later ← ofTexts rest
      return (arg, here) :: later

end Argument

/-- The flags of an argument with their values, and the flag behind them, if there is one, that
takes the next argument as its value. -/
structure Bundle where
  settings : List (Flag × Option Text)
  awaiting : Option Flag
  deriving DecidableEq, Repr

namespace Bundle

/-- The mark of a list without elements. -/
def emptyList : Text := "[]"

/-- The value that a flag takes from the text attached to it.  An attached `--` leaves it with an
empty list of values: as a line there is nothing to run in it, as a prompt it is shown. -/
def attachedValue (flag : Flag) (attached : Text) : Text :=
  if attached == "--" then (if flag == .prompt then emptyList else []) else attached

/-- An argument that ends with a flag to which nothing is attached. -/
def ofFlag (flag : Flag) : Bundle :=
  if flag.takesValue then ⟨[], some flag⟩ else ⟨[(flag, none)], none⟩

/-- An argument that ends with a text attached to a flag, which has to take it. -/
def ofValue (flag : Flag) (attached : Text) : Except ArgumentFault Bundle :=
  if flag.takesValue then .ok ⟨[(flag, some (attachedValue flag attached))], none⟩
  else .error (.valueUnused flag attached)

/-- A flag without a value in front. -/
def cons (flag : Flag) (bundle : Bundle) : Bundle :=
  { bundle with settings := (flag, none) :: bundle.settings }

/-- Takes apart what is attached to a short spelling.  A flag without a value leaves all of it to
the flag that the first character spells. -/
def ofShort (flag : Flag) : Text → Except ArgumentFault Bundle
  | [] => ofValue flag []
  | c :: rest =>
    if flag.takesValue then ofValue flag (c :: rest)
    else match Flag.ofSpelling? ['-', c] with
      | none => .error (.valueUnused flag (c :: rest))
      | some next =>
        (if rest.isEmpty then .ok (ofFlag next) else ofShort next rest).map (cons flag)

/-- Takes a flag and what is attached to it apart. -/
def ofAttached (flag : Flag) (short : Bool) : Option Text → Except ArgumentFault Bundle
  | none => .ok (ofFlag flag)
  | some attached => if short then ofShort flag attached else ofValue flag attached

end Bundle

/-- What the arguments ask for. -/
structure Options where
  /-- The line to run instead of reading lines. -/
  command : Option Text := none
  prompt : Option Text := none
  shortCircuit : Bool := false
  verbose : Bool := false
  deriving DecidableEq, Repr

/-- Why the program does not start. -/
inductive Halt where
  /-- Only the help text is asked for. -/
  | help
  | fault (cause : ArgumentFault)
  deriving DecidableEq, Repr

namespace Options

/-- The options with one flag more; a later value of a flag counts. -/
def set (options : Options) : Flag × Option Text → Except Halt Options
  | (.help, _) => .error .help
  | (.command, value) => .ok { options with command := value }
  | (.prompt, value) => .ok { options with prompt := value }
  | (.shortCircuit, _) => .ok { options with shortCircuit := true }
  | (.verbose, _) => .ok { options with verbose := true }

/-- The options with several flags more, in order. -/
def setAll (options : Options) (settings : List (Flag × Option Text)) : Except Halt Options :=
  settings.foldlM set options

/-- Goes through arguments; `unused` are those before that no flag takes. -/
def readFrom (options : Options) (unused : List Text) :
    List (Text × Argument) → Except Halt Options
  | [] => if unused.isEmpty then .ok options else .error (.fault (.unrecognized unused))
  | (_, .flag flag short attached) :: rest =>
    match Bundle.ofAttached flag short attached with
    | .error cause => .error (.fault cause)
    | .ok ⟨settings, none⟩ =>
      match options.setAll settings with
      | .error reason => .error reason
      | .ok options => readFrom options unused rest
    | .ok ⟨settings, some last⟩ =>
      match rest with
      | (value, .plain) :: later =>
        match options.setAll (settings ++ [(last, some value)]) with
        | .error reason => .error reason
        | .ok options => readFrom options unused later
      | _ => .error (.fault (.valueMissing last))
  | (arg, _) :: rest => readFrom options (unused ++ [arg]) rest

/-- Reads the arguments of the program. -/
def ofArguments (arguments : List Text) : Except Halt Options :=
  match Argument.ofTexts arguments with
  | .error cause => .error (.fault cause)
  | .ok read => readFrom {} [] read

/-- The settings with those given by arguments in place of the others. -/
def override (options : Options) (config : Config) : Config :=
  { config with
    prompt := options.prompt.getD config.prompt
    shortCircuit := options.shortCircuit || config.shortCircuit }

end Options

end PipedShell.Launch
