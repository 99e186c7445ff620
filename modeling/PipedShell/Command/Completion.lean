import PipedShell.Command.Registry
import PipedShell.Token.Lexer

/-!
# Completing what is being typed

A line editor asks for the ways to complete the text at the end of a partial line.  In the place
of a command these are registered names, after it what the command says about itself.  Only the
stage being typed matters: what stands after the last operator.

* `Registry.candidatesAt` completes a text in a known place, `Registry.candidates` one at the end
  of a line.
* `currentStage` is the part of a line after its last operator, found by spelling.
* `Completer` hands the candidates out one by one, as editors ask for them.
* `Registry.Bound` is a registry with the completer that is bound to it.
* `EditorCall` is what the shell asks of an editor to be put into service.
-/

namespace PipedShell

namespace Text

/-- What follows the last occurrence of `mark`, `none` when there is no occurrence. -/
def afterLast? (mark t : Text) : Option Text :=
  match t with
  | [] => none
  | _ :: rest =>
    match afterLast? mark rest with
    | some found => some found
    | none => if mark.isPrefixOf t then some (t.drop mark.length) else none

/-- What follows the last occurrence of `mark`, the whole text when there is no occurrence. -/
def afterLast (mark t : Text) : Text := (afterLast? mark t).getD t

end Text

/-- The part of a line after its last operator, whichever operator that is. -/
def currentStage (line : Text) : Text :=
  Text.afterLast "|" (Text.afterLast "&&" (Text.afterLast "||" line))

/-- A line without `text` at its end, the whole line when it does not end so. -/
def lineBefore (line text : Text) : Text :=
  if !text.isEmpty && text.isSuffixOf line then line.take (line.length - text.length) else line

namespace Registry

variable {β : Type}

/-- The ways to complete `text` in the place of a command name, when `command` is none, or as an
argument of `command`. -/
def candidatesAt (text : Text) (command : Option Text) (registry : Registry β) : List Text :=
  match command with
  | none => registry.completions text
  | some name =>
    if name.isEmpty then []
    else match registry.find? name with
      | none => []
      | some entry => entry.spec.matching text

/-- The ways to complete `text` at the end of a partial line. -/
def candidates (line text : Text) (registry : Registry β) : List Text :=
  match wordsOfLine (currentStage (lineBefore line text)) with
  | .error _ => []
  | .ok [] => registry.candidatesAt text none
  | .ok (name :: _) => registry.candidatesAt text (some name)

end Registry

/-- The candidates found when an editor last asked for the first one. -/
structure Completer where
  found : List Text := []

namespace Completer

/-- The item at an index; a negative index counts from the end. -/
def itemAt? (index : Int) (items : List Text) : Except Defect (Option Text) :=
  if index ≥ items.length then .ok none
  else if index ≥ 0 then .ok items[index.toNat]?
  else if index + items.length ≥ 0 then .ok items[(index + items.length).toNat]?
  else .error .indexOutOfRange

/-- The candidate number `index` for `text`.  Number zero looks for candidates anew, at the end of
the edited line when the editor shows one, and otherwise as if `text` were the line. -/
def complete {β : Type} (text : Text) (index : Int) (line : Option Text) (registry : Registry β)
    (completer : Completer) : Except Defect (Option Text) × Completer :=
  let found := if index == 0 then registry.candidates (line.getD text) text else completer.found
  (itemAt? index found, ⟨found⟩)

end Completer

/-- A registry and the completer that is bound to it.  The completer looks up what the registry
holds when it is asked, whatever it held before. -/
structure Registry.Bound (β : Type) where
  registry : Registry β := {}
  completer : Completer := {}

/-- What the bound completer hands out as candidate number `index` for `text`. -/
def Registry.Bound.complete {β : Type} (text : Text) (index : Int) (line : Option Text)
    (bound : Bound β) : Except Defect (Option Text) × Bound β :=
  let (answer, completer) := bound.completer.complete text index line bound.registry
  (answer, { bound with completer })

/-- What the shell asks of a line editor. -/
inductive EditorCall where
  /-- Completes with the candidates of this shell. -/
  | setCompleter
  /-- Lets a completed text begin after one of these characters. -/
  | setDelimiters (delimiters : Text)
  /-- Makes a key ask for completion. -/
  | bindKey (binding : Text)
  deriving DecidableEq, Repr

/-- The calls that put completion into service on a key. -/
def installCalls (key : Text) : List EditorCall :=
  [.setCompleter, .setDelimiters " \t\n|&()", .bindKey (key ++ ": complete")]

end PipedShell
