/-! Division to the nearest integer. `roundDiv` picks the integer next to an exact quotient, and an
exact half goes where the `Tie` says. -/
namespace TextIntent

/-- Where a value half way between two neighbours goes. -/
inductive Tie where
  | toEven
  | up
  deriving DecidableEq, Repr

/-- The upper of two neighbours is taken, for a quotient `q + r / d`. -/
def Tie.takesUpper (tie : Tie) (q r d : Nat) : Bool :=
  decide (d < 2 * r) || (decide (2 * r = d) && (tie = .up || q % 2 = 1))

/-- The integer nearest to `n / d`. -/
def roundDiv (tie : Tie) (n d : Nat) : Nat :=
  if tie.takesUpper (n / d) (n % d) d then n / d + 1 else n / d

/-- The result is one of the two neighbours of the quotient. -/
theorem roundDiv_eq (tie : Tie) (n d : Nat) :
    roundDiv tie n d = n / d ∨ roundDiv tie n d = n / d + 1 := by
  unfold roundDiv
  split
  · exact Or.inr rfl
  · exact Or.inl rfl

/-- The result is within half a unit of the quotient. -/
theorem two_mul_roundDiv_mul_le (tie : Tie) (n : Nat) {d : Nat} (hd : 0 < d) :
    2 * (roundDiv tie n d * d) ≤ 2 * n + d ∧ 2 * n ≤ 2 * (roundDiv tie n d * d) + d := by
  have hn := Nat.div_add_mod n d
  have hm : n / d * d = d * (n / d) := Nat.mul_comm _ _
  have hlt := Nat.mod_lt n hd
  unfold roundDiv Tie.takesUpper
  split
  · next h =>
    have hr : d ≤ 2 * (n % d) := by
      simp at h
      omega
    rw [Nat.add_mul, Nat.one_mul, hm]
    omega
  · next h =>
    have hr : 2 * (n % d) ≤ d := by
      simp at h
      omega
    rw [hm]
    omega

/-- A multiple of the divisor is divided exactly. -/
theorem roundDiv_mul (tie : Tie) (q : Nat) {d : Nat} (h : 0 < d) : roundDiv tie (q * d) d = q := by
  unfold roundDiv Tie.takesUpper
  rw [Nat.mul_mod_left, Nat.mul_div_cancel _ h]
  simp
  omega

end TextIntent
