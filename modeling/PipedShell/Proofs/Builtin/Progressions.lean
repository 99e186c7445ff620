import Mathlib.Tactic.Ring
import PipedShell.Proofs.Builtin.Lines
import PipedShell.Proofs.Builtin.Numbers

/-!
# Progressions in closed form

`seq` goes on from its start by its step as long as the end is not passed, and keeps no count of the
rounds.  Their number is nevertheless known beforehand: one more than the distance from the start to
the end divided by the step and rounded down, whatever the signs of the three numbers are.

* `Progression.Asked` — the progression that arguments ask for.
* `Progression.reaches_iff_le_fdiv` — the end is passed exactly when the quotient is.
* `Progression.valuesFrom_eq` — the numbers of a loop that goes on for `n` rounds and stops then.
* `Progression.values_eq`, `Progression.last_mem_values_iff` — the numbers in closed form, and when
  the end is one of them.
* **`seq_prints_progression`** — the command, on any arguments that are numbers.
-/

namespace PipedShell.Builtin

namespace Progression

/-- What arguments ask for: the numbers from 1 up to an end, the numbers from a start to an end one
by one in the direction of the end, or those that the third argument is the step between. -/
inductive Asked : List Text → Progression → Prop
  | upTo {last : Text} {b : ℤ} (hlast : last.readInt = .ok b) : Asked [last] ⟨1, b, 1⟩
  | upward {start last : Text} {a b : ℤ} (hstart : start.readInt = .ok a)
      (hlast : last.readInt = .ok b) (hle : a ≤ b) : Asked [start, last] ⟨a, b, 1⟩
  | downward {start last : Text} {a b : ℤ} (hstart : start.readInt = .ok a)
      (hlast : last.readInt = .ok b) (hlt : b < a) : Asked [start, last] ⟨a, b, -1⟩
  | byStep {start last step : Text} {a b c : ℤ} (hstart : start.readInt = .ok a)
      (hlast : last.readInt = .ok b) (hstep : step.readInt = .ok c) (hne : c ≠ 0) :
      Asked [start, last, step] ⟨a, b, c⟩

section Arguments

variable {args : List Text} {p : Progression}

lemma Asked.step_ne_zero (h : Asked args p) : p.step ≠ 0 := by
  cases h with
  | upTo => simp
  | upward => simp
  | downward => simp
  | byStep _ _ _ hne => exact hne

lemma Asked.ofArgs (h : Asked args p) : ofArgs args = .ok p := by
  cases h with
  | upTo hlast => simp [Progression.ofArgs, hlast, ofNumbers, bind, Except.bind, pure, Except.pure]
  | upward hstart hlast hle =>
      simp [Progression.ofArgs, hstart, hlast, ofNumbers, hle, bind, Except.bind, pure, Except.pure]
  | downward hstart hlast hlt =>
      simp [Progression.ofArgs, hstart, hlast, ofNumbers, Int.not_le.2 hlt, bind, Except.bind, pure,
        Except.pure]
  | byStep hstart hlast hstep hne =>
      simp [Progression.ofArgs, hstart, hlast, hstep, ofNumbers, hne, bind, Except.bind, pure,
        Except.pure]

end Arguments

/-! ## The loop -/

section Loop

variable {p : Progression}

/-- After `k` steps the end is not passed exactly if `k` is at most the quotient, rounded down.  The
quotient stays the same when all numbers change their sign, which turns a falling progression into a
rising one. -/
lemma reaches_iff_le_fdiv (hstep : p.step ≠ 0) (k : ℕ) :
    p.reaches (p.start + k * p.step) = true ↔ (k : ℤ) ≤ (p.last - p.start).fdiv p.step := by
  simp only [reaches, Bool.or_eq_true, Bool.and_eq_true, decide_eq_true_eq]
  rcases Int.lt_or_gt_of_ne hstep with hfalls | hrises
  · have hturned : 0 < -p.step := Int.neg_pos_of_neg hfalls
    rw [← Int.neg_fdiv_neg, Int.fdiv_eq_ediv_of_nonneg _ hturned.le,
      Int.le_ediv_iff_mul_le hturned, Int.mul_neg]
    omega
  · rw [Int.fdiv_eq_ediv_of_nonneg _ hrises.le, Int.le_ediv_iff_mul_le hrises]
    omega

/-- A loop that goes on for `n` rounds and stops then adds `n` numbers to those already found.  By
induction on the rounds, the first one being taken off. -/
lemma valuesFrom_eq {n : ℕ} (found : List ℤ) {i : ℤ}
    (hgoes : ∀ k : ℕ, k < n → p.reaches (i + k * p.step) = true)
    (hstops : p.reaches (i + n * p.step) = false) :
    p.valuesFrom found i
      = found.reverse ++ (List.range n).map fun k : ℕ => i + k * p.step := by
  induction n generalizing found i with
  | zero =>
      rw [valuesFrom, dif_neg (by simpa using hstops)]
      simp
  | succ n ih =>
      have hfirst : p.reaches i = true := by simpa using hgoes 0 n.succ_pos
      have hshift : ∀ k : ℕ, i + p.step + k * p.step = i + (k + 1 : ℕ) * p.step := by
        intro k
        push_cast
        ring
      have hrest := ih (i :: found) (i := i + p.step)
        (fun k hk => by
          rw [hshift]
          exact hgoes (k + 1) (Nat.succ_lt_succ hk))
        (by rwa [hshift])
      rw [valuesFrom, dif_pos hfirst, hrest, List.range_succ_eq_map, List.reverse_cons,
        List.append_assoc, List.map_cons, List.map_map]
      simp only [hshift]
      simp [Function.comp_def]

/-- The numbers of a progression, one for each whole step that does not pass the end. -/
lemma values_eq (hstep : p.step ≠ 0) :
    p.values = (List.range ((p.last - p.start).fdiv p.step + 1).toNat).map
      fun k : ℕ => p.start + k * p.step := by
  rw [values, valuesFrom_eq (n := ((p.last - p.start).fdiv p.step + 1).toNat) []]
  · simp
  · intro k hk
    rw [reaches_iff_le_fdiv hstep]
    omega
  · rw [Bool.eq_false_iff, Ne, reaches_iff_le_fdiv hstep]
    omega

/-- The end is one of the numbers exactly if whole steps lead to it and there are numbers at all. -/
lemma last_mem_values_iff (hstep : p.step ≠ 0) :
    p.last ∈ p.values ↔ p.step ∣ p.last - p.start ∧ p.values ≠ [] := by
  constructor
  · intro hmem
    obtain ⟨k, -, hk⟩ : ∃ k : ℕ, _ ∧ p.start + k * p.step = p.last := by
      simpa [values_eq hstep] using hmem
    exact ⟨⟨k, by rw [← hk]; ring⟩, List.ne_nil_of_mem hmem⟩
  · rintro ⟨⟨steps, hsteps⟩, hne⟩
    have hquotient : (p.last - p.start).fdiv p.step = steps := by
      rw [hsteps, Int.mul_fdiv_cancel_left steps hstep]
    have hforward : 0 ≤ steps := by
      by_contra hback
      apply hne
      rw [values_eq hstep, hquotient, Int.toNat_eq_zero.2 (by omega)]
      rfl
    rw [values_eq hstep, hquotient]
    refine List.mem_map.2 ⟨steps.toNat, List.mem_range.2 (by omega), ?_⟩
    rw [Int.toNat_of_nonneg hforward, mul_comm]
    omega

end Loop

/-- Two arguments ask for every number between them. -/
lemma Asked.length_values {args : List Text} {p : Progression} (h : Asked args p)
    (htwo : args.length = 2) : p.values.length = (p.last - p.start).natAbs + 1 := by
  rw [values_eq h.step_ne_zero, List.length_map, List.length_range]
  cases h with
  | upTo => simp at htwo
  | upward _ _ hle =>
      simp only [Int.fdiv_one]
      omega
  | @downward _ _ a b _ _ hlt =>
      have hquotient : (b - a).fdiv (-1) = a - b := by
        rw [← Int.neg_fdiv_neg, Int.neg_neg, Int.fdiv_one, Int.neg_sub]
      simp only [hquotient]
      omega
  | byStep => simp at htwo

end Progression

/-! ## The command -/

lemma seq_eq_writeLines {args : List Text} {p : Progression}
    (h : Progression.ofArgs args = .ok p) :
    seq args = writeLines (p.values.map Text.ofInt) (.result 0) := by
  rw [seq, h]
  rfl

variable {session : Session}

/-- **`seq` prints exactly its progression.**  Its loop goes on for as many rounds as the quotient
of the distance and the step allows and then stops; it prints the start and what is reached from it
by whole steps up to the quotient, one to a line and nothing if the quotient is negative, reads
nothing, and comes to code 0.  Every number can be written, lies between the start and the end, and
the end is among them exactly if whole steps lead there. -/
theorem seq_prints_progression (run : Session.LineRunner) {args : List Text} {p : Progression}
    (hasked : p.Asked args) (hopen : session.pipeline.BuffersOpen)
    (hattached : session.stdoutAttached = true)
    (hknows : session.commands.find? "seq" = commands.find? "seq") :
    let quotient := (p.last - p.start).fdiv p.step
    let values := (List.range (quotient + 1).toNat).map fun k : ℕ => p.start + k * p.step
    (∀ k : ℕ, p.reaches (p.start + k * p.step) = true ↔ (k : ℤ) ≤ quotient) ∧
    session.Prints run [⟨"seq", args⟩] 0 (Text.unlines (values.map Text.ofInt)) ∧
    (∀ source : Source, (seq args).alone source
      = { output := Text.unlines (values.map Text.ofInt), code := 0, rest := source }) ∧
    (∀ n ∈ values, IsWritable n ∧ ((p.start ≤ n ∧ n ≤ p.last) ∨ (p.last ≤ n ∧ n ≤ p.start))) ∧
    (p.last ∈ values ↔ p.step ∣ p.last - p.start ∧ values ≠ []) ∧
    (args.length = 2 → values.length = (p.last - p.start).natAbs + 1) := by
  intro quotient values
  have hstep : p.step ≠ 0 := hasked.step_ne_zero
  have hvalues : values = p.values := (Progression.values_eq hstep).symm
  have halone : ∀ source : Source, (seq args).alone source
      = { output := Text.unlines (values.map Text.ofInt), code := 0, rest := source } := by
    intro source
    rw [seq_eq_writeLines hasked.ofArgs, ← hvalues, alone_writeLines]
  have hprints : session.Prints run [⟨"seq", args⟩] 0
      (Text.unlines (values.map Text.ofInt)) := by
    have hprogram : session.programOf? ⟨"seq", args⟩ = some (seq args) := by
      rw [Session.programOf?, hknows]
      rfl
    have hrange := Session.prints_filter run hopen hattached hprogram (isFilter_seq args)
    rwa [halone] at hrange
  refine ⟨Progression.reaches_iff_le_fdiv hstep, hprints, halone, ?_, ?_, ?_⟩
  · intro n hmem
    rw [hvalues] at hmem
    exact ⟨Progression.isWritable_of_mem_values hasked.ofArgs hmem, Progression.mem_values hmem⟩
  · rw [hvalues]
    exact Progression.last_mem_values_iff hstep
  · rw [hvalues]
    exact hasked.length_values

/-- A falling progression that misses its end, and one of two arguments that does not. -/
theorem seq_prints_progression_falling :
    let session := Session.start {} commands (none, none) ""
    Progression.Asked ["10", "-5", "-4"] ⟨10, -5, -4⟩ ∧
    Progression.Asked ["1", " -2"] ⟨1, -2, -1⟩ ∧
    session.pipeline.BuffersOpen ∧ session.stdoutAttached = true ∧
    session.commands.find? "seq" = commands.find? "seq" ∧
    session.Prints Session.run [⟨"seq", ["10", "-5", "-4"]⟩] 0 "10\n6\n2\n-2\n" ∧
    session.Prints Session.run [⟨"seq", ["1", " -2"]⟩] 0 "1\n0\n-1\n-2\n" := by
  intro session
  have hopen : session.pipeline.BuffersOpen := by
    intro slot
    cases slot <;> rfl
  have hfour : Progression.Asked ["10", "-5", "-4"] ⟨10, -5, -4⟩ :=
    .byStep (by decide) (by decide) (by decide) (by decide)
  have hone : Progression.Asked ["1", " -2"] ⟨1, -2, -1⟩ :=
    .downward (by decide) (by decide) (by decide)
  obtain ⟨-, hmisses, -⟩ := seq_prints_progression Session.run hfour hopen rfl rfl
  obtain ⟨-, hmeets, -⟩ := seq_prints_progression Session.run hone hopen rfl rfl
  exact ⟨hfour, hone, hopen, rfl, rfl, hmisses, hmeets⟩

end PipedShell.Builtin
