import TextIntent.Proofs.Binary64.Value

/-! Comparison of doubles. Defined doubles are ordered as their values are, and an undefined double
answers no comparison. -/
namespace TextIntent.Binary64

open Float.Model (UnpackedFloat)
open Float.Model.UnpackedFloat

/-- Of two rounded numbers the one with the larger exponent is larger. -/
theorem InRange.lt_of_lt {m₁ m₂ : ℕ} {e₁ e₂ : ℤ} (h₁ : InRange m₁ e₁) (h₂ : InRange m₂ e₂)
    (h : e₁ < e₂) : (m₁ : ℝ) * 2 ^ e₁ < m₂ * 2 ^ e₂ := by
  have hfull : 2 ^ 52 ≤ m₂ := h₂.full.resolve_right fun he => by
    have := h₁.le
    omega
  have hm₁ : (m₁ : ℝ) < 2 ^ 53 := by exact_mod_cast h₁.lt
  have hm₂ : (2 : ℝ) ^ 52 ≤ m₂ := by exact_mod_cast hfull
  have he : (2 : ℝ) ^ (e₁ + 1) ≤ 2 ^ e₂ := zpow_le_zpow_right₀ (by norm_num) (by omega)
  calc (m₁ : ℝ) * 2 ^ e₁ < 2 ^ 53 * 2 ^ e₁ := mul_lt_mul_of_pos_right hm₁ (by positivity)
    _ = 2 ^ 52 * 2 ^ (e₁ + 1) := by
      rw [zpow_add₀ (by norm_num)]
      ring
    _ ≤ m₂ * 2 ^ e₂ := mul_le_mul hm₂ he (by positivity) (by positivity)

/-- Rounded numbers are compared by their exponents first. -/
theorem InRange.cmp_eq {m₁ m₂ : ℕ} {e₁ e₂ : ℤ} (h₁ : InRange m₁ e₁) (h₂ : InRange m₂ e₂) :
    cmp ((m₁ : ℝ) * 2 ^ e₁) (m₂ * 2 ^ e₂) = (compare e₁ e₂).then (compare m₁ m₂) := by
  rcases lt_trichotomy e₁ e₂ with h | rfl | h
  · rw [(h₁.lt_of_lt h₂ h).cmp_eq_lt, compare_lt_iff_lt.mpr h]
    rfl
  · have hp : (0 : ℝ) < 2 ^ e₁ := by positivity
    rw [cmp_mul_pos_right hp, compare_eq_iff_eq.mpr rfl]
    rcases lt_trichotomy m₁ m₂ with h | rfl | h
    · rw [(Nat.cast_lt.mpr h).cmp_eq_lt, compare_lt_iff_lt.mpr h]
      rfl
    · rw [cmp_self_eq_eq, compare_eq_iff_eq.mpr rfl]
      rfl
    · rw [(Nat.cast_lt.mpr h).cmp_eq_gt, compare_gt_iff_gt.mpr h]
      rfl
  · rw [(h₂.lt_of_lt h₁ h).cmp_eq_gt, compare_gt_iff_gt.mpr h]
    rfl

theorem cmp_neg_neg (x y : ℝ) : cmp (-x) (-y) = (cmp x y).swap := by
  rw [cmp_swap]
  rcases lt_trichotomy x y with h | rfl | h
  · rw [h.cmp_eq_gt, (neg_lt_neg h).cmp_eq_gt]
  · simp
  · rw [h.cmp_eq_lt, (neg_lt_neg h).cmp_eq_lt]

/-- A number that is larger in absolute value decides a comparison by its sign. -/
theorem cmp_signed_left (s : Sign) {x y : ℝ} (h : |y| < x) :
    cmp (signed s x) y = match s with
      | .negative => .lt
      | .positive => .gt := by
  obtain ⟨hl, hr⟩ := abs_lt.mp h
  cases s with
  | negative => exact hl.cmp_eq_lt
  | positive => exact hr.cmp_eq_gt

theorem cmp_signed_right (s : Sign) {x y : ℝ} (h : |y| < x) :
    cmp y (signed s x) = match s with
      | .negative => .gt
      | .positive => .lt := by
  rw [← cmp_swap, cmp_signed_left s h]
  cases s <;> rfl

/-- Numbers are compared by their signs first. -/
theorem cmp_signed (s t : Sign) {x y : ℝ} (hx : 0 < x) (hy : 0 < y) :
    cmp (signed s x) (signed t y) = match s, t with
      | .negative, .negative => (cmp x y).swap
      | .negative, .positive => .lt
      | .positive, .negative => .gt
      | .positive, .positive => cmp x y := by
  cases s <;> cases t
  · exact cmp_neg_neg x y
  · exact ((neg_lt_zero.mpr hx).trans hy).cmp_eq_lt
  · exact ((neg_lt_zero.mpr hy).trans hx).cmp_eq_gt
  · rfl

/-- The comparison of doubles is that of their values. -/
theorem compare_unpack {x y : Float} (hx : Defined x) (hy : Defined y) :
    x.toModel.unpack.compare y.toModel.unpack = some (cmp (value x) (value y)) := by
  have hl := limit_pos
  have abs_lt_limit {z : Float} {s : Sign} {m : ℕ} {e : ℤ} {hm : 0 < m}
      (h : z.toModel.unpack = .finite s m e hm) : |signed s (m * 2 ^ e)| < limit := by
    obtain ⟨hr, he⟩ := inRange_of_unpack h
    rw [abs_signed, abs_of_nonneg (by positivity)]
    exact finite_lt_limit hr.lt he
  unfold Defined at hx hy
  unfold value
  cases h₁ : x.toModel.unpack with
  | notANumber => exact absurd h₁ hx
  | infinity s =>
    cases h₂ : y.toModel.unpack with
    | notANumber => exact absurd h₂ hy
    | infinity t =>
      rw [unpackedValue_infinity, unpackedValue_infinity, cmp_signed s t hl hl, cmp_self_eq_eq]
      cases s <;> cases t <;> rfl
    | zero t =>
      rw [unpackedValue_infinity, cmp_signed_left s (by simpa using hl)]
      cases s <;> rfl
    | finite t n f hn =>
      rw [unpackedValue_infinity, unpackedValue_finite, cmp_signed_left s (abs_lt_limit h₂)]
      cases s <;> rfl
  | zero s =>
    cases h₂ : y.toModel.unpack with
    | notANumber => exact absurd h₂ hy
    | infinity t =>
      rw [unpackedValue_infinity, cmp_signed_right t (by simpa using hl)]
      cases t <;> rfl
    | zero t => simp [UnpackedFloat.compare]
    | finite t n f hn =>
      have hp : (0 : ℝ) < n * 2 ^ f := by positivity
      rw [unpackedValue_finite, cmp_signed_right t (by simpa using hp)]
      cases t <;> rfl
  | finite s m e hm =>
    have hp : (0 : ℝ) < m * 2 ^ e := by positivity
    cases h₂ : y.toModel.unpack with
    | notANumber => exact absurd h₂ hy
    | infinity t =>
      rw [unpackedValue_infinity, unpackedValue_finite, cmp_signed_right t (abs_lt_limit h₁)]
      cases t <;> rfl
    | zero t =>
      rw [unpackedValue_finite, cmp_signed_left s (by simpa using hp)]
      cases s <;> rfl
    | finite t n f hn =>
      have hq : (0 : ℝ) < n * 2 ^ f := by positivity
      rw [unpackedValue_finite, unpackedValue_finite, cmp_signed s t hp hq,
        (inRange_of_unpack h₁).1.cmp_eq (inRange_of_unpack h₂).1]
      cases s <;> cases t <;> rfl

theorem compare_of_not_defined {x y : Float} (h : ¬(Defined x ∧ Defined y)) :
    x.toModel.unpack.compare y.toModel.unpack = none := by
  unfold Defined at h
  cases h₁ : x.toModel.unpack <;> cases h₂ : y.toModel.unpack <;>
    first | rfl | simp [h₁, h₂] at h

theorem le_iff (x y : Float) : x ≤ y ↔ Defined x ∧ Defined y ∧ value x ≤ value y := by
  change decide (x.toModel ≤ y.toModel) = true ↔ _
  rw [decide_eq_true_iff]
  change (x.toModel.unpack.compare y.toModel.unpack).any (·.isLE) = true ↔ _
  by_cases h : Defined x ∧ Defined y
  · rw [compare_unpack h.1 h.2]
    rcases lt_trichotomy (value x) (value y) with hl | he | hg
    · simp [hl.cmp_eq_lt, h, hl.le]
    · simp [he, h]
    · simp [hg.cmp_eq_gt, h, hg]
  · rw [compare_of_not_defined h]
    simp only [Option.any_none, Bool.false_eq_true, false_iff]
    exact fun hn => h ⟨hn.1, hn.2.1⟩

theorem lt_iff (x y : Float) : x < y ↔ Defined x ∧ Defined y ∧ value x < value y := by
  change decide (x.toModel < y.toModel) = true ↔ _
  rw [decide_eq_true_iff]
  change (x.toModel.unpack.compare y.toModel.unpack == some .lt) = true ↔ _
  by_cases h : Defined x ∧ Defined y
  · rw [compare_unpack h.1 h.2]
    rcases lt_trichotomy (value x) (value y) with hl | he | hg
    · simp [hl.cmp_eq_lt, h, hl]
    · simp [he, h]
    · simp [hg.cmp_eq_gt, h, hg.le]
  · rw [compare_of_not_defined h]
    simp only [beq_iff_eq, reduceCtorEq, false_iff]
    exact fun hn => h ⟨hn.1, hn.2.1⟩

/-- The test of the program for undefined numbers finds exactly these. -/
theorem isNaN_eq_false_iff (x : Float) : Scalar.isNaN x = false ↔ Defined x := by
  simp [Scalar.isNaN, le_iff]

theorem isNaN_iff (x : Float) : Scalar.isNaN x = true ↔ ¬Defined x := by
  simp [Scalar.isNaN, le_iff]

end TextIntent.Binary64
