/-!
# Rounding a quotient

A quotient of natural numbers is rounded to the nearest integer, and a quotient
halfway between two integers to the even one.  `two_mul_roundHalfEven_le` and
`le_two_mul_roundHalfEven` say that the result is at most one half away.
-/

set_option autoImplicit false

namespace KeySequenced

/-- The integer nearest to `numerator / denominator`, the even one of two. -/
def roundHalfEven (numerator denominator : Nat) : Nat :=
  let quotient := numerator / denominator
  let remainder := numerator % denominator
  if 2 * remainder < denominator then quotient
  else if denominator < 2 * remainder then quotient + 1
  else quotient + quotient % 2

theorem two_mul_roundHalfEven_le (numerator denominator : Nat) (positive : 0 < denominator) :
    2 * (roundHalfEven numerator denominator * denominator) ≤ 2 * numerator + denominator := by
  have split := Nat.div_add_mod numerator denominator
  have small := Nat.mod_lt numerator positive
  have commuted : numerator / denominator * denominator = denominator * (numerator / denominator) :=
    Nat.mul_comm _ _
  simp only [roundHalfEven]
  split
  · omega
  · split
    · rw [Nat.add_mul]
      omega
    · rw [Nat.add_mul]
      rcases Nat.mod_two_eq_zero_or_one (numerator / denominator) with even | odd
      · rw [even]
        omega
      · rw [odd]
        omega

theorem le_two_mul_roundHalfEven (numerator denominator : Nat) (positive : 0 < denominator) :
    2 * numerator ≤ 2 * (roundHalfEven numerator denominator * denominator) + denominator := by
  have split := Nat.div_add_mod numerator denominator
  have small := Nat.mod_lt numerator positive
  have commuted : numerator / denominator * denominator = denominator * (numerator / denominator) :=
    Nat.mul_comm _ _
  simp only [roundHalfEven]
  split
  · omega
  · split
    · rw [Nat.add_mul]
      omega
    · rw [Nat.add_mul]
      omega

end KeySequenced
