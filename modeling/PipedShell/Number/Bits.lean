/-!
# Bitwise disjunction of integers

Exit codes are joined bit by bit.  An integer is read in two's complement with its sign repeated
forever to the left, so codes of any size and sign can be joined.

* `bitOr` is the disjunction, `bitOr_eq_zero_iff` says when it has no bit set.
-/

namespace PipedShell

/-- The bits of `a` that `b` does not have. -/
def withoutBits (a b : Nat) : Nat := a - (a &&& b)

/-- The bits that at least one of two integers has. -/
def bitOr : Int → Int → Int
  | .ofNat a, .ofNat b => .ofNat (a ||| b)
  | .ofNat a, .negSucc b => .negSucc (withoutBits b a)
  | .negSucc a, .ofNat b => .negSucc (withoutBits a b)
  | .negSucc a, .negSucc b => .negSucc (a &&& b)

/-- A disjunction has no bit set only when neither side has one. -/
theorem bitOr_eq_zero_iff (a b : Int) : bitOr a b = 0 ↔ a = 0 ∧ b = 0 := by
  cases a with
  | ofNat a =>
    cases b with
    | ofNat b =>
      simp only [bitOr, Int.ofNat_eq_natCast, Int.natCast_eq_zero]
      constructor
      · intro h
        constructor
        · apply Nat.eq_of_testBit_eq
          intro i
          have := congrArg (Nat.testBit · i) h
          simp at this
          simp [this.1]
        · apply Nat.eq_of_testBit_eq
          intro i
          have := congrArg (Nat.testBit · i) h
          simp at this
          simp [this.2]
      · rintro ⟨rfl, rfl⟩
        rfl
    | negSucc b => simp [bitOr]
  | negSucc a => cases b <;> simp [bitOr]

end PipedShell
