import Mathlib.Algebra.Group.Nat.Defs
import Mathlib.Data.List.Induction
import PipedShell.Builtin.Sequence
import PipedShell.Text.Integer

/-!
# Numbers that can be written

A literal of too many digits is refused, and a number of too many digits cannot be written.  The
limit is the same, so whatever was read can be written again.  `seq` calculates with what it reads,
but it writes only numbers that lie between two of those, and 1.

* `IsWritable` — the number has no more digits than a literal may have.
* `isWritable_of_readInt` — what is read is writable.
* `Progression.mem_valuesFrom` — the numbers of a progression lie between its start and its end.
* **`Progression.isWritable_of_mem_values`** — a progression that arguments say is writable.
-/

namespace PipedShell

/-- The number has no more digits than are read and written. -/
def IsWritable (n : Int) : Prop := n.natAbs < 10 ^ maxIntegerDigits

/-! ## Reading -/

lemma digitValue?_le {c : Char} {value : Nat} (h : digitValue? c = some value) : value ≤ 9 := by
  obtain ⟨nought, hfind, rfl⟩ := Option.map_eq_some_iff.1 h
  have hrange := List.find?_some hfind
  simp only [Bool.and_eq_true, decide_eq_true_eq] at hrange
  omega

/-- Each digit makes room for at most ten numbers. -/
lemma decimalValue_lt (digits : Text) : decimalValue digits < 10 ^ digits.length := by
  induction digits using List.reverseRecOn with
  | nil => simp [decimalValue]
  | append_singleton digits c ih =>
      have hdigit : (digitValue? c).getD 0 ≤ 9 := by
        cases hvalue : digitValue? c with
        | none => simp
        | some value => exact digitValue?_le hvalue
      have hvalue : decimalValue (digits ++ [c])
          = 10 * decimalValue digits + (digitValue? c).getD 0 := by
        simp [decimalValue]
      rw [hvalue, List.length_append, List.length_singleton, Nat.pow_succ]
      omega

lemma isWritable_of_readInt {t : Text} {n : Int} (h : t.readInt = .ok n) : IsWritable n := by
  have hbound : ∀ digits : Text, digits.length ≤ maxIntegerDigits →
      decimalValue digits < 10 ^ maxIntegerDigits := by
    intro digits hlength
    exact Nat.lt_of_lt_of_le (decimalValue_lt digits)
      (Nat.pow_le_pow_right (by decide) hlength)
  simp only [Text.readInt] at h
  split at h
  · simp at h
  · split at h
    · simp at h
    · next hshort =>
        split at h
        · simp at h
        · have hvalue := hbound _ (Nat.not_lt.1 hshort)
          cases h
          rw [IsWritable]
          split_ifs
          · rwa [Int.natAbs_neg, Int.natAbs_natCast]
          · rwa [Int.natAbs_natCast]

lemma isWritable_zero : IsWritable 0 := Nat.pow_pos (by decide)

lemma isWritable_one : IsWritable 1 := Nat.one_lt_pow (by decide) (by decide)

/-! ## Progressions -/

namespace Builtin.Progression

/-- A number of a progression does not lie beyond its end, nor before the one that it goes on
from. -/
lemma mem_valuesFrom {p : Progression} {found : List Int} {i n : Int}
    (h : n ∈ p.valuesFrom found i) :
    n ∈ found ∨ (p.reaches n = true ∧ (0 < p.step → i ≤ n) ∧ (p.step < 0 → n ≤ i)) := by
  fun_induction p.valuesFrom found i with
  | case1 found i hreaches ih =>
      rcases ih h with hfound | ⟨hn, hup, hdown⟩
      · rcases List.mem_cons.1 hfound with rfl | hfound
        · exact Or.inr ⟨hreaches, fun _ => Int.le_refl n, fun _ => Int.le_refl n⟩
        · exact Or.inl hfound
      · refine Or.inr ⟨hn, fun hstep => ?_, fun hstep => ?_⟩
        · have := hup hstep
          omega
        · have := hdown hstep
          omega
  | case2 found i hbeyond => exact Or.inl (List.mem_reverse.1 h)

lemma mem_values {p : Progression} {n : Int} (h : n ∈ p.values) :
    (p.start ≤ n ∧ n ≤ p.last) ∨ (p.last ≤ n ∧ n ≤ p.start) := by
  rcases mem_valuesFrom h with hnone | ⟨hreaches, hup, hdown⟩
  · simp at hnone
  · simp only [reaches, Bool.or_eq_true, Bool.and_eq_true, decide_eq_true_eq] at hreaches
    omega

/-- A progression of writable numbers goes from one to another of them, or from 1. -/
lemma isWritable_ofNumbers {numbers : List Int} (h : ∀ n ∈ numbers, IsWritable n) :
    IsWritable (ofNumbers numbers).start ∧ IsWritable (ofNumbers numbers).last := by
  match numbers, h with
  | [], _ => exact ⟨isWritable_one, isWritable_zero⟩
  | [last], h => exact ⟨isWritable_one, h last (by simp)⟩
  | [start, last], h => exact ⟨h start (by simp), h last (by simp)⟩
  | start :: last :: step :: _, h => exact ⟨h start (by simp), h last (by simp)⟩

lemma isWritable_of_mapM {args : List Text} {numbers : List Int}
    (h : args.mapM Text.readInt = .ok numbers) : ∀ n ∈ numbers, IsWritable n := by
  induction args generalizing numbers with
  | nil =>
      cases h
      simp
  | cons arg args ih =>
      rw [List.mapM_cons] at h
      cases hread : arg.readInt with
      | error fault =>
          rw [hread] at h
          cases h
      | ok n =>
          cases hrest : args.mapM Text.readInt with
          | error fault =>
              rw [hread, hrest] at h
              cases h
          | ok rest =>
              rw [hread, hrest] at h
              cases h
              exact List.forall_mem_cons.2 ⟨isWritable_of_readInt hread, ih hrest⟩

/-- **A progression that arguments say has writable numbers only.** -/
theorem isWritable_of_mem_values {args : List Text} {p : Progression} (h : ofArgs args = .ok p)
    {n : Int} (hmem : n ∈ p.values) : IsWritable n := by
  obtain ⟨hstart, hlast⟩ : IsWritable p.start ∧ IsWritable p.last := by
    rw [ofArgs] at h
    split_ifs at h
    split at h
    · cases h
    · next numbers hnumbers =>
        dsimp only at h
        split_ifs at h
        cases h
        exact isWritable_ofNumbers (isWritable_of_mapM hnumbers)
  rw [IsWritable] at hstart hlast ⊢
  rcases mem_values hmem with hbetween | hbetween <;> omega

end Builtin.Progression

end PipedShell
