import PipedShell.Program

/-!
# The built-in command for sequences of numbers

* `Builtin.Progression` is a start, an end and a step, `Builtin.Progression.values` the numbers
  from the start on that do not lie beyond the end.
* `Builtin.Progression.ofArgs` reads one from arguments.
* `Builtin.seq` prints the numbers, one to a line.
-/

namespace PipedShell.Builtin

/-- Numbers at an even distance from each other, from a start toward an end. -/
structure Progression where
  start : Int
  last : Int
  step : Int
  deriving DecidableEq, Repr

namespace Progression

/-- A number does not lie beyond the end. -/
def reaches (p : Progression) (i : Int) : Bool :=
  (0 < p.step && i ≤ p.last) || (p.step < 0 && p.last ≤ i)

/-- How far the end lies beyond a number, in the direction of the step. -/
def distance (p : Progression) (i : Int) : Nat :=
  (if 0 < p.step then p.last - i + 1 else i - p.last + 1).toNat

/-- Every step brings a number that does not lie beyond the end nearer to it. -/
theorem distance_add_step_lt {p : Progression} {i : Int} (h : p.reaches i = true) :
    p.distance (i + p.step) < p.distance i := by
  simp only [reaches, Bool.or_eq_true, Bool.and_eq_true, decide_eq_true_eq] at h
  unfold distance
  split <;> omega

/-- The numbers from `i` on that do not lie beyond the end, after those already found, which are
reversed. -/
def valuesFrom (p : Progression) (found : List Int) (i : Int) : List Int :=
  if _h : p.reaches i = true then valuesFrom p (i :: found) (i + p.step) else found.reverse
termination_by p.distance i
decreasing_by exact distance_add_step_lt _h

/-- The numbers in order. -/
def values (p : Progression) : List Int := p.valuesFrom [] p.start

/-- Why arguments say no progression. -/
inductive Fault where
  | noArguments
  | notNumeric
  | noStep
  deriving DecidableEq, Repr

/-- What is reported of a fault. -/
def Fault.message : Fault → Text
  | noArguments => "seq: start end [step] required\n"
  | notNumeric => "seq: numeric arguments required\n"
  | noStep => "seq: step must not be 0\n"

/-- The progression of numbers already read; of one number it is the end, and without a step the
numbers lead toward the end one by one. -/
def ofNumbers : List Int → Progression
  | [] => ⟨1, 0, 1⟩
  | [last] => ⟨1, last, 1⟩
  | [start, last] => ⟨start, last, if last ≥ start then 1 else -1⟩
  | start :: last :: step :: _ => ⟨start, last, step⟩

/-- The progression that arguments ask for; those after the third are not looked at. -/
def ofArgs (args : List Text) : Except Fault Progression :=
  if args.isEmpty then .error .noArguments
  else match (args.take 3).mapM Text.readInt with
    | .error _ => .error .notNumeric
    | .ok numbers =>
      let p := ofNumbers numbers
      if p.step == 0 then .error .noStep else .ok p

end Progression

/-- Prints the numbers of a progression. -/
def seq : Body := fun args =>
  match Progression.ofArgs args with
  | .error fault => .writeError fault.message (.result 1)
  | .ok p =>
    let lines := p.values.map Text.ofInt
    if lines.isEmpty then .result 0 else .write (Text.unlines lines) (.result 0)

end PipedShell.Builtin
