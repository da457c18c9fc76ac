import TextIntent.Proofs.Binary64.Sums

/-! Doubles between zero and one, and the operations that do not leave that interval. Rounding does
not, because both ends are doubles. -/
namespace TextIntent.Binary64

open Scalar

/-- A number from zero to one. -/
def InUnit (x : Float) : Prop := 0 ≤ x ∧ x ≤ 1

theorem inUnit_iff (x : Float) : InUnit x ↔ Defined x ∧ 0 ≤ value x ∧ value x ≤ 1 := by
  rw [InUnit, zero_le_iff, le_iff, value_one]
  have := isNearest_one.1
  tauto

variable {x y : Float}

theorem InUnit.defined (h : InUnit x) : Defined x := defined_of_zero_le h.1

theorem InUnit.isFinite (h : InUnit x) : x.isFinite = true := isFinite_of_le h.1 h.2 rfl

theorem InUnit.zero : InUnit 0 := ⟨zero_le_zero, Binary64.zero_le_one⟩

theorem InUnit.one : InUnit 1 := ⟨Binary64.zero_le_one, Binary64.le_refl isNearest_one.1⟩

/-- Rounding a number of the interval. -/
theorem IsNearest.inUnit {r : ℝ} (h : IsNearest x r) (h₀ : 0 ≤ r) (h₁ : r ≤ 1) : InUnit x := by
  rw [inUnit_iff]
  refine ⟨h.1, h.nonneg h₀, ?_⟩
  rw [← value_one]
  exact h.value_le (by rwa [value_one])

/-- A share of a finite number is not more than the number. -/
theorem mul_le_of_inUnit (h₀ : 0 ≤ x) (hx : x.isFinite = true) (hy : InUnit y) :
    0 ≤ x * y ∧ x * y ≤ x := by
  have hm := isNearest_mul hx hy.isFinite
  obtain ⟨-, hy₀, hy₁⟩ := (inUnit_iff y).mp hy
  have hv := value_nonneg h₀
  refine ⟨(zero_le_iff _).mpr ⟨hm.1, hm.nonneg (mul_nonneg hv hy₀)⟩,
    (le_iff _ _).mpr ⟨hm.1, defined_of_zero_le h₀, hm.value_le ?_⟩⟩
  exact mul_le_of_le_one_right hv hy₁

theorem InUnit.mul (hx : InUnit x) (hy : InUnit y) : InUnit (x * y) := by
  obtain ⟨h₀, h₁⟩ := mul_le_of_inUnit hx.1 hx.isFinite hy
  exact ⟨h₀, Binary64.le_trans h₁ hx.2⟩

/-- The ratio of a number to one that is not smaller. -/
theorem InUnit.div (h₀ : 0 ≤ x) (h : x ≤ y) (hy : y.isFinite = true) (hpos : 0 < value y) :
    InUnit (x / y) := by
  have hq := isNearest_div (isFinite_of_le h₀ h hy) hy hpos.ne'
  have hv := value_nonneg h₀
  exact hq.inUnit (div_nonneg hv hpos.le) ((div_le_one hpos).mpr ((le_iff _ _).mp h).2.2)

theorem InUnit.one_sub (h : InUnit x) : InUnit (1 - x) := by
  have hs := isNearest_sub (x := 1) rfl h.isFinite
  obtain ⟨-, h₀, h₁⟩ := (inUnit_iff x).mp h
  rw [value_one] at hs
  exact hs.inUnit (by linarith) (by linarith)

theorem InUnit.abs_sub (hx : InUnit x) (hy : InUnit y) : InUnit (x - y).abs := by
  have hs := isNearest_sub hx.isFinite hy.isFinite
  obtain ⟨-, hx₀, hx₁⟩ := (inUnit_iff x).mp hx
  obtain ⟨-, hy₀, hy₁⟩ := (inUnit_iff y).mp hy
  rw [inUnit_iff, defined_abs_iff, value_abs]
  refine ⟨hs.1, abs_nonneg _, abs_le.mpr ⟨?_, ?_⟩⟩
  · rw [hs.2, ← neg_le_neg_iff, neg_neg, ← rounded_neg]
    have := (isNearest_one.2.symm.trans value_one : rounded 1 = 1)
    rw [← this]
    exact rounded_mono (by linarith)
  · rw [← value_one]
    exact hs.value_le (by rw [value_one]; linarith)

/-- The mean of ten numbers of the interval. -/
theorem InUnit.mean {xs : List Float} (hl : xs.length = 10) (h : ∀ x ∈ xs, InUnit x) :
    InUnit (sum xs / 10.0) := by
  have hle : sum xs ≤ 10.0 := by
    have hs := sum_map_le_sum_map xs (f := id) (g := fun _ => 1) h
    rw [List.map_id, List.map_const', hl] at hs
    have : sum (List.replicate 10 (1 : Float)) = 10.0 := by decide +kernel
    rwa [this] at hs
  exact InUnit.div (zero_le_sum fun x hx => (h x hx).1) hle rfl (by rw [value_ten]; norm_num)

/-- Numbers of the unit interval add up to their count at most, as long as counts are exact. -/
theorem value_sum_le_length {xs : List Float} (h : ∀ x ∈ xs, InUnit x)
    (hl : xs.length ≤ 2 ^ 53) : value (sum xs) ≤ xs.length := by
  induction xs using List.reverseRecOn with
  | nil => simp
  | append_singleton xs x ih =>
    have hs : ∀ x ∈ xs, InUnit x := fun y hy => h y (by simp [hy])
    have hx : InUnit x := h x (by simp)
    rw [List.length_append, List.length_singleton] at hl ⊢
    have hle := ih hs (by omega)
    have hone := ((inUnit_iff x).mp hx).2.2
    rw [sum_concat, (isNearest_add_of_zero_le (zero_le_sum fun y hy => (hs y hy).1) hx.1).2,
      ← rounded_natCast_of_le hl]
    refine rounded_mono ?_
    push_cast
    linarith

/-- Clamping does not mend an undefined number. -/
theorem InUnit.clamp (h : Defined (Scalar.clamp 0 1 x)) : InUnit (Scalar.clamp 0 1 x) :=
  le_clamp Binary64.zero_le_one h

end TextIntent.Binary64
