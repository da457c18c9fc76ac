import TextIntent.Proofs.Binary64.Spacing

/-! Nonnegative doubles, infinite ones included: their products, what is left when one of them is taken
away, sums with some of the terms left out, and shares of more than one half. -/
namespace TextIntent.Binary64

open Float.Model (Format UnpackedFloat)
open Float.Model.UnpackedFloat
open Scalar

variable {x y : Float}

/-- What is infinite is not finite, so a number that is one or the other can be told from its unpacked
form. -/
theorem isFinite_or_infinity_of_zero_le (h : 0 ≤ x) :
    x.isFinite = true ∨ x.toModel.unpack = .infinity .positive :=
  isFinite_or_infinity (defined_of_zero_le h) (value_nonneg h)

theorem isFinite_of_infinity (h : x.toModel.unpack = .infinity .positive) : x.isFinite = false := by
  change x.toModel.unpack.isFinite = false
  rw [h]
  rfl

/-- A positive finite double has a significand. -/
theorem unpack_of_pos (hf : x.isFinite = true) (h : 0 < value x) :
    ∃ m e, ∃ hm : 0 < m, x.toModel.unpack = .finite .positive m e hm := by
  rcases unpack_of_isFinite hf with ⟨s, hs⟩ | ⟨s, m, e, hm, hs⟩
  · rw [value_of_unpack_zero hs] at h
    exact absurd h (lt_irrefl 0)
  · cases s with
    | positive => exact ⟨m, e, hm, hs⟩
    | negative =>
      rw [value_of_unpack_finite hs, signed] at h
      have : (0 : ℝ) < m * 2 ^ e := by positivity
      linarith

/-- A product of nonnegative doubles is not negative, as long as zero is not multiplied by infinity. -/
theorem zero_le_mul (hx : 0 ≤ x) (hy : 0 ≤ y) (hx' : x.isFinite = true ∨ 0 < y)
    (hy' : y.isFinite = true ∨ 0 < x) : 0 ≤ x * y := by
  have inf {u : UnpackedFloat} (hu : u = .infinity .positive) :
      0 ≤ (⟨Float.Model.pack u⟩ : Float) := by
    subst hu
    rw [zero_le_iff]
    exact ⟨by simp [Defined], by simp [value, limit_pos.le]⟩
  rcases isFinite_or_infinity_of_zero_le hx with hxf | hxi
  · rcases isFinite_or_infinity_of_zero_le hy with hyf | hyi
    · have hm := isNearest_mul hxf hyf
      exact (zero_le_iff _).mpr ⟨hm.1, hm.nonneg (mul_nonneg (value_nonneg hx) (value_nonneg hy))⟩
    · have hx₀ := value_pos (hy'.resolve_left (by simp [isFinite_of_infinity hyi]))
      obtain ⟨m, e, hm, hu⟩ := unpack_of_pos hxf hx₀
      refine inf ?_
      rw [hu, hyi]
      rfl
  · have hy₀ := value_pos (hx'.resolve_left (by simp [isFinite_of_infinity hxi]))
    rcases isFinite_or_infinity_of_zero_le hy with hyf | hyi
    · obtain ⟨m, e, hm, hu⟩ := unpack_of_pos hyf hy₀
      refine inf ?_
      rw [hu, hxi]
      rfl
    · refine inf ?_
      rw [hxi, hyi]
      rfl

/-- Nothing grows when something is taken away, even if that is infinite. -/
theorem sub_le (hx : x.isFinite = true) (hy : 0 ≤ y) : x - y ≤ x := by
  rcases isFinite_or_infinity_of_zero_le hy with hyf | hyi
  · have hs := isNearest_sub hx hyf
    have hv := value_nonneg hy
    exact (le_iff _ _).mpr ⟨hs.1, Defined.of_isFinite hx, hs.value_le (by linarith)⟩
  · have hu : (x - y).toModel.unpack = .infinity .negative := by
      change (Float.Model.pack (UnpackedFloat.sub Format.binary64 x.toModel.unpack
        y.toModel.unpack)).unpack = _
      rw [hyi]
      rcases unpack_of_isFinite hx with ⟨s, hs⟩ | ⟨s, m, e, hm, hs⟩ <;> rw [hs] <;>
        exact unpack_pack_infinity .negative
    have hl := ((isFinite_iff x).mp hx).2
    rw [le_iff, Defined, hu, value, hu, unpackedValue_infinity, signed]
    exact ⟨by simp, Defined.of_isFinite hx, (abs_lt.mp hl).1.le⟩

/-- A finite double divided by infinity is zero. -/
theorem value_div_of_infinity (hx : x.isFinite = true) (hy : y.toModel.unpack = .infinity .positive) :
    value (x / y) = 0 := by
  have hz : ∃ s, (x / y).toModel.unpack = .zero s := by
    change ∃ s, (Float.Model.pack (UnpackedFloat.div Format.binary64 x.toModel.unpack
      y.toModel.unpack)).unpack = .zero s
    rw [hy]
    rcases unpack_of_isFinite hx with ⟨s, hs⟩ | ⟨s, m, e, hm, hs⟩ <;> rw [hs] <;>
      exact ⟨_, unpack_pack_zero _⟩
  obtain ⟨s, hs⟩ := hz
  exact value_of_unpack_zero hs

/-- Terms that are left out make a sum no greater. -/
theorem sum_le_sum_of_sublist {xs ys : List Float} (hs : xs.Sublist ys) (hy : ∀ y ∈ ys, 0 ≤ y) :
    sum xs ≤ sum ys := by
  -- both sums from any start, that of the shorter list from a smaller one
  suffices h : ∀ a b : Float, 0 ≤ a → a ≤ b → xs.foldl (· + ·) a ≤ ys.foldl (· + ·) b from
    h 0 0 zero_le_zero zero_le_zero
  induction hs with
  | slnil => exact fun a b _ hab => hab
  | cons z _ ih =>
    intro a b ha hab
    have hz : 0 ≤ z := hy z (by simp)
    have hb := Binary64.le_trans ha hab
    exact ih (fun w hw => hy w (by simp [hw])) a (b + z) ha
      (Binary64.le_trans hab (le_add_right hb hz))
  | cons_cons z _ ih =>
    intro a b ha hab
    have hz : 0 ≤ z := hy z (by simp)
    exact ih (fun w hw => hy w (by simp [hw])) (a + z) (b + z) (zero_le_add ha hz)
      (Binary64.add_le_add ha hz hab (Binary64.le_refl (defined_of_zero_le hz)))

section Half

/-- A double that is not tiny has a full significand, and room for a smaller exponent. -/
theorem unpack_of_le_value (hf : x.isFinite = true) (h : 2 ^ (-1000 : ℤ) ≤ value x) :
    ∃ (m : ℕ) (e : ℤ), 2 ^ 52 ≤ m ∧ m < 2 ^ 53 ∧ leastExponent < e ∧ value x = m * 2 ^ e := by
  have hpos : (0 : ℝ) < 2 ^ (-1000 : ℤ) := by positivity
  obtain ⟨m, e, hm, hu⟩ := unpack_of_pos hf (hpos.trans_le h)
  have hr := (inRange_of_unpack hu).1
  have hv : value x = m * 2 ^ e := value_of_unpack_finite hu
  have hlt : (m : ℝ) < 2 ^ 53 := by exact_mod_cast hr.lt
  have he : e ≠ leastExponent := by
    rintro rfl
    have hsmall : (m : ℝ) * 2 ^ leastExponent < 2 ^ (53 : ℤ) * 2 ^ leastExponent :=
      mul_lt_mul_of_pos_right (by exact_mod_cast hlt) (by positivity)
    rw [← zpow_add₀ (by norm_num), ← hv] at hsmall
    have : (2 : ℝ) ^ (53 + leastExponent) ≤ 2 ^ (-1000 : ℤ) :=
      zpow_le_zpow_right₀ (by norm_num) (by decide)
    linarith
  exact ⟨m, e, hr.full.resolve_right he, hr.lt, lt_of_le_of_ne hr.le (Ne.symm he), hv⟩

theorem rounded_half (hf : x.isFinite = true) (h : 2 ^ (-1000 : ℤ) ≤ value x) :
    rounded (value x / 2) = value x / 2 := by
  obtain ⟨m, e, -, hlt, he, hv⟩ := unpack_of_le_value hf h
  have hhalf : value x / 2 = m * 2 ^ (e - 1) := by
    rw [hv, zpow_sub₀ (by norm_num), zpow_one]
    ring
  have hnonneg : 0 ≤ value x := (by positivity : (0 : ℝ) ≤ 2 ^ (-1000 : ℤ)).trans h
  have hl : value x / 2 ≤ limit := (half_le_self hnonneg).trans (value_le_limit x)
  rw [hhalf] at hl ⊢
  exact rounded_eq_self hlt (by omega) hl

/-- More than one half of a double is rounded to more than one half of it. -/
theorem half_lt_value_mul (hx : x.isFinite = true) (hy : y.isFinite = true)
    (h : 2 ^ (-1000 : ℤ) ≤ value x) (hhalf : 1 / 2 < value y) (hone : value y ≤ 1) :
    value x / 2 < value (x * y) := by
  obtain ⟨m, e, hfull, hlt, he, hv⟩ := unpack_of_le_value hx h
  have hnext : 1 / 2 + 2 ^ (-53 : ℤ) ≤ value y := by
    simpa using next_le_value (k := -1) (by decide) (by simpa using hhalf)
  have hfull' : (2 : ℝ) ^ 52 ≤ m := by exact_mod_cast hfull
  have hstep : (0 : ℝ) < 2 ^ (e - 1) := by positivity
  have htwo : (2 : ℝ) ^ e = 2 * 2 ^ (e - 1) := by
    rw [zpow_sub₀ (by norm_num), zpow_one]
    ring
  have hnonneg : 0 ≤ value x := (by positivity : (0 : ℝ) ≤ 2 ^ (-1000 : ℤ)).trans h
  -- one step more than a half, which is a double itself
  have habove : ((m + 1 : ℕ) : ℝ) * 2 ^ (e - 1) ≤ value x * value y := by
    have hunit : (1 : ℝ) ≤ m * 2 ^ (-52 : ℤ) := by
      calc (1 : ℝ) = 2 ^ 52 * 2 ^ (-52 : ℤ) := by norm_num
        _ ≤ m * 2 ^ (-52 : ℤ) := by gcongr
    have hsteps : (m : ℝ) + 1 ≤ m * (2 * value y) := by
      calc (m : ℝ) + 1 ≤ m + m * 2 ^ (-52 : ℤ) := by linarith
        _ = m * (2 * (1 / 2 + 2 ^ (-53 : ℤ))) := by
          rw [show (-52 : ℤ) = -53 + 1 by norm_num, zpow_add_one₀ (by norm_num)]
          ring
        _ ≤ m * (2 * value y) := by gcongr
    calc ((m + 1 : ℕ) : ℝ) * 2 ^ (e - 1) ≤ m * (2 * value y) * 2 ^ (e - 1) := by
          push_cast
          gcongr
      _ = value x * value y := by
          rw [hv, htwo]
          ring
  have hle : value x * value y ≤ limit :=
    (mul_le_of_le_one_right hnonneg hone).trans (value_le_limit x)
  have hself := rounded_eq_self_of_le (Nat.succ_le_of_lt hlt) (Int.le_sub_one_of_lt he)
    (habove.trans hle)
  rw [(isNearest_mul hx hy).2]
  calc value x / 2 = m * 2 ^ (e - 1) := by
        rw [hv, htwo]
        ring
    _ < ((m + 1 : ℕ) : ℝ) * 2 ^ (e - 1) := by
        push_cast
        linarith
    _ = rounded (((m + 1 : ℕ) : ℝ) * 2 ^ (e - 1)) := hself.symm
    _ ≤ rounded (value x * value y) := rounded_mono habove

end Half

end TextIntent.Binary64
