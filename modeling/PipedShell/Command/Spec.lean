import PipedShell.Text
import PipedShell.Text.Blank

/-!
# What a command says about itself

A command has a name and a description, and tables of its options and sub-commands.  Help texts and
completion are made from the tables; what a command does with its arguments is its own affair.

* `CommandOption` and `Subcommand` are the entries; `CommandOption.clashes` says when two options
  cannot both be in a table.
* `Spec` is the description of a command, and `Spec.insertOption`, `Spec.eraseOption`,
  `Spec.insertSubcommand`, `Spec.eraseSubcommand` change it.  Both tables are kept sorted by name.
* `Spec.matching` is what can complete an argument, `Spec.usage` the two tables as text.
-/

namespace PipedShell

/-- An option: its long name, its short name, empty when it has none, and a description. -/
structure CommandOption where
  name : Text
  short : Text := []
  description : Text := []
  deriving DecidableEq, Repr

namespace CommandOption

/-- Two options clash when they share the long name or a short name that is not empty. -/
def clashes (a b : CommandOption) : Bool :=
  a.name == b.name || (!a.short.isEmpty && a.short == b.short)

/-- The option as it is typed in full. -/
def longForm (option : CommandOption) : Text := "--" ++ option.name

/-- The option as it is typed for short, when it can be. -/
def shortForm? (option : CommandOption) : Option Text :=
  if option.short.isEmpty then none else some ("-" ++ option.short)

/-- Both forms as the option table shows them. -/
def heading (option : CommandOption) : Text :=
  (match option.shortForm? with
    | some form => form ++ ", "
    | none => "    ") ++ option.longForm

/-- Every form that can be typed. -/
def forms (option : CommandOption) : List Text := option.longForm :: option.shortForm?.toList

end CommandOption

/-- A sub-command: its name and a description. -/
structure Subcommand where
  name : Text
  description : Text := []
  deriving DecidableEq, Repr

/-- The description of a command. -/
structure Spec where
  name : Text
  description : Text := []
  options : List CommandOption := []
  subcommands : List Subcommand := []
  deriving DecidableEq, Repr

namespace Spec

/-- Adds an option in place of every option that it clashes with. -/
def insertOption (option : CommandOption) (spec : Spec) : Spec :=
  let kept := spec.options.filter fun other => !other.clashes option
  { spec with options := (kept ++ [option]).mergeSort fun a b => Text.le a.name b.name }

/-- Removes the options of the given long name or the given short name; an empty name matches no
option. -/
def eraseOption (name short : Text) (spec : Spec) : Spec :=
  { spec with
    options := spec.options.filter fun option =>
      !((!name.isEmpty && option.name == name) || (!short.isEmpty && option.short == short)) }

/-- Removes the sub-command of the given name. -/
def eraseSubcommand (name : Text) (spec : Spec) : Spec :=
  { spec with subcommands := spec.subcommands.filter fun sub => sub.name != name }

/-- Adds a sub-command in place of the one of its name. -/
def insertSubcommand (sub : Subcommand) (spec : Spec) : Spec :=
  let kept := (spec.eraseSubcommand sub.name).subcommands
  { spec with subcommands := (kept ++ [sub]).mergeSort fun a b => Text.le a.name b.name }

/-- Names of sub-commands and forms of options that start with `start`, in ascending order. -/
def matching (start : Text) (spec : Spec) : List Text :=
  let forms := spec.subcommands.map (·.name) ++ spec.options.flatMap CommandOption.forms
  Text.sorted (forms.filter (start.isPrefixOf ·))

/-- A table of two columns, two spaces in front of each, without blanks at the ends of lines. -/
def table (rows : List (Text × Text)) : List Text :=
  let width := Text.widest (rows.map (·.1))
  rows.map fun row => Text.trimRight ("  " ++ row.1.padRight width ++ "  " ++ row.2)

/-- A heading over a table, nothing when there are no rows. -/
def titled (heading : Text) (rows : List (Text × Text)) : List Text :=
  if rows.isEmpty then [] else heading :: table rows

/-- The tables of sub-commands and options, empty when the command has neither. -/
def usage (spec : Spec) : Text :=
  let lines := titled "sub commands:" (spec.subcommands.map fun s => (s.name, s.description)) ++
    titled "options:" (spec.options.map fun o => (o.heading, o.description))
  if lines.isEmpty then [] else Text.join "\n" lines ++ "\n"

end Spec

end PipedShell
