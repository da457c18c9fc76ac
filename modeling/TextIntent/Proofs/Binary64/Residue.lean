import TextIntent.Proofs.Binary64.Value

/-! Rounding of a significand that is known up to two bits: the first digit that is cut off, and
whether any digit after it is not zero. `IsResidue` says which numbers such a significand stands for,
shifting keeps it, and `roundWithAccuracy_pack` concludes that the rounding steps of a double compute
`rounded`. -/
namespace TextIntent.Binary64

open Float.Model (Format UnpackedFloat totalExponent)
open Float.Model.UnpackedFloat

/-- The number has this integer part, the first bit after it, and a rest below one half. -/
def IsResidue (em : ExtendedMantissa) (y : ℝ) : Prop :=
  ∃ δ : ℝ, 0 ≤ δ ∧ δ < weight (-1) ∧
    y = em.mantissa + (if em.roundBit then weight (-1) else 0) + δ ∧
    (em.stickyBit = true ↔ 0 < δ)

theorem isResidue_iff (em : ExtendedMantissa) (y : ℝ) :
    IsResidue em y ↔ ∃ δ : ℝ, 0 ≤ δ ∧ δ < 1 / 2 ∧
      y = em.mantissa + (if em.roundBit then 1 / 2 else 0) + δ ∧
      (em.stickyBit = true ↔ 0 < δ) := by
  rw [IsResidue, weight_neg_one]

theorem IsResidue.nonneg {em : ExtendedMantissa} {y : ℝ} (h : IsResidue em y) : 0 ≤ y := by
  obtain ⟨δ, h₀, -, rfl, -⟩ := (isResidue_iff _ _).mp h
  split_ifs <;> positivity

theorem IsResidue.floor {em : ExtendedMantissa} {y : ℝ} (h : IsResidue em y) :
    ⌊y⌋₊ = em.mantissa := by
  have hy := h.nonneg
  obtain ⟨δ, h₀, h₁, he, -⟩ := (isResidue_iff _ _).mp h
  rw [Nat.floor_eq_iff hy]
  split_ifs at he <;> constructor <;> linarith

/-- One shift to the right halves the number and moves the two bits on. -/
theorem IsResidue.shiftRightOne {em : ExtendedMantissa} {y : ℝ} (h : IsResidue em y) :
    IsResidue em.shiftRightOne (y / 2) := by
  obtain ⟨m, r, t⟩ := em
  obtain ⟨δ, h₀, h₁, rfl, ht⟩ := (isResidue_iff _ _).mp h
  have hm : (m : ℝ) = 2 * (m / 2 : ℕ) + (m % 2 : ℕ) := by exact_mod_cast (Nat.div_add_mod m 2).symm
  refine (isResidue_iff _ _).mpr ⟨((if r then 1 / 2 else 0) + δ) / 2, ?_, ?_, ?_, ?_⟩
  · split_ifs <;> positivity
  · split_ifs <;> linarith
  · simp only [ExtendedMantissa.shiftRightOne, hm]
    rcases Nat.mod_two_eq_zero_or_one m with h2 | h2 <;> simp [h2] <;> ring
  · simp only [ExtendedMantissa.shiftRightOne, Bool.or_eq_true, ht]
    cases r
    · simp
    · simp only [true_or, if_true, true_iff]
      positivity

theorem IsResidue.shiftRight {em : ExtendedMantissa} {y : ℝ} (h : IsResidue em y) (k : ℕ) :
    IsResidue (em >>> k) (y / 2 ^ k) := by
  induction k with
  | zero =>
    rw [pow_zero, div_one]
    exact h
  | succ k ih =>
    have hs := ih.shiftRightOne
    rw [div_div, ← pow_succ] at hs
    exact hs

/-- The two bits decide the rounding. -/
theorem IsResidue.roundedMantissa {em : ExtendedMantissa} {y : ℝ} (h : IsResidue em y) :
    em.roundedMantissa = nearestNat y := by
  have hf := h.floor
  obtain ⟨m, r, t⟩ := em
  obtain ⟨δ, h₀, h₁, he, ht⟩ := (isResidue_iff _ _).mp h
  simp only at hf he ht
  have hd : y - ⌊y⌋₊ = (if r then 1 / 2 else 0) + δ := by
    rw [hf, he]
    ring
  have hz : t = false → δ = 0 := fun hn => by
    rw [hn] at ht
    exact le_antisymm (not_lt.mp (fun hp => by simpa using ht.mpr hp)) h₀
  have hp : t = true → 0 < δ := fun hn => ht.mp hn
  unfold nearestNat
  rw [hd, hf]
  cases r <;> cases t
  · simp [ExtendedMantissa.roundedMantissa, ExtendedMantissa.accuracy,
      Accuracy.roundToNearestEven, hz rfl]
  · simp [ExtendedMantissa.roundedMantissa, ExtendedMantissa.accuracy,
      Accuracy.roundToNearestEven, show δ < 2⁻¹ by linarith]
  · simp [ExtendedMantissa.roundedMantissa, ExtendedMantissa.accuracy,
      Accuracy.roundToNearestEven, hz rfl]
  · simp [ExtendedMantissa.roundedMantissa, ExtendedMantissa.accuracy,
      Accuracy.roundToNearestEven, hp rfl, not_lt.mpr h₀]

theorem isResidue_exact (m : ℕ) : IsResidue (.ofMantissaAndAccuracy m .exact) m :=
  (isResidue_iff _ _).mpr ⟨0, le_rfl, by norm_num, by simp [ExtendedMantissa.ofMantissaAndAccuracy],
    by simp [ExtendedMantissa.ofMantissaAndAccuracy]⟩

/-- A number with an integer part and the place of the rest against one half. -/
theorem isResidue_inexact {m : ℕ} {y : ℝ} {o : Ordering} (h₁ : (m : ℝ) < y) (h₂ : y < m + 1)
    (hlt : o = .lt → y < m + 1 / 2) (heq : o = .eq → y = m + 1 / 2)
    (hgt : o = .gt → m + 1 / 2 < y) : IsResidue (.ofMantissaAndAccuracy m (.inexact o)) y := by
  cases o with
  | lt =>
    have := hlt rfl
    exact (isResidue_iff _ _).mpr ⟨y - m, by linarith, by linarith, by simp [ExtendedMantissa.ofMantissaAndAccuracy],
      by simp [ExtendedMantissa.ofMantissaAndAccuracy, h₁]⟩
  | eq =>
    have := heq rfl
    exact (isResidue_iff _ _).mpr ⟨0, le_rfl, by norm_num, by simp [ExtendedMantissa.ofMantissaAndAccuracy, this],
      by simp [ExtendedMantissa.ofMantissaAndAccuracy]⟩
  | gt =>
    have := hgt rfl
    exact (isResidue_iff _ _).mpr ⟨y - m - 1 / 2, by linarith, by linarith,
      by simp [ExtendedMantissa.ofMantissaAndAccuracy],
      by simp [ExtendedMantissa.ofMantissaAndAccuracy]; linarith⟩

/-- The logarithm of a number is found in its integer part. -/
theorem log_mul_two_zpow {m : ℕ} {y : ℝ} (hm : ⌊y⌋₊ = m) (hpos : 0 < m) (e : ℤ) :
    Int.log 2 (y * 2 ^ e) = m.log2 + e := by
  have hy : 0 < y := Nat.pos_of_floor_pos (hm ▸ hpos)
  have hx : 0 < y * 2 ^ e := by positivity
  have hfl : (m : ℝ) ≤ y := hm ▸ Nat.floor_le hy.le
  have hfu : y < m + 1 := hm ▸ Nat.lt_floor_add_one y
  have h₁ : ((2 : ℕ) : ℝ) ^ ((m.log2 : ℤ) + e) ≤ y * 2 ^ e := by
    have h2 : ((2 ^ m.log2 : ℕ) : ℝ) ≤ m := by exact_mod_cast Nat.log2_self_le hpos.ne'
    push_cast at h2 ⊢
    rw [zpow_add₀ (by norm_num), zpow_natCast]
    gcongr
    linarith
  have h₂ : y * 2 ^ e < ((2 : ℕ) : ℝ) ^ ((m.log2 : ℤ) + e + 1) := by
    have h2 : ((m + 1 : ℕ) : ℝ) ≤ (2 ^ (m.log2 + 1) : ℕ) := by
      exact_mod_cast Nat.lt_log2_self
    push_cast at h2 ⊢
    rw [show (m.log2 : ℤ) + e + 1 = ((m.log2 + 1 : ℕ) : ℤ) + e by push_cast; ring,
      zpow_add₀ (by norm_num), zpow_natCast]
    gcongr
    linarith
  have h₃ := (Int.zpow_le_iff_le_log (by norm_num) hx).mp h₁
  have h₄ := (Int.lt_zpow_iff_log_lt (by norm_num) hx).mp h₂
  omega

/-- The exponent of the last place, worked out from a significand and an exponent. -/
theorem targetExponent_eq {m : ℕ} {e : ℤ} {y : ℝ} (hm : ⌊y⌋₊ = m) (hy : 0 < y)
    (he : e ≤ placeExponent (y * 2 ^ e)) :
    max (Format.binary64.targetExponent (totalExponent m e)) e = placeExponent (y * 2 ^ e) := by
  have ht : Format.binary64.targetExponent (totalExponent m e) =
      max ((m.log2 : ℤ) + 1 + e - 53) (-1074) := rfl
  have hx : 0 < y * 2 ^ e := by positivity
  rw [ht]
  unfold placeExponent leastExponent at *
  rcases Nat.eq_zero_or_pos m with rfl | hpos
  · -- a number below its own last place is small enough for the least exponent
    have hlt : y * 2 ^ e < ((2 : ℕ) : ℝ) ^ e := by
      have h1 : y < 1 := by
        have := Nat.lt_floor_add_one y
        rw [hm] at this
        simpa using this
      push_cast
      exact mul_lt_of_lt_one_left (by positivity) h1
    have hlog := (Int.lt_zpow_iff_log_lt (by norm_num) hx).mp hlt
    simp only [Nat.log2_zero, Nat.cast_zero]
    omega
  · rw [log_mul_two_zpow hm hpos] at he ⊢
    omega

/-- Shifting to the last place and rounding there gives the nearest multiple. -/
theorem shiftToTargetExponent_spec {m : ℕ} {e : ℤ} {a : Accuracy} {y : ℝ}
    (h : IsResidue (.ofMantissaAndAccuracy m a) y) (hy : 0 < y)
    (he : e ≤ placeExponent (y * 2 ^ e)) :
    (shiftToTargetExponent Format.binary64 m e a).1.roundedMantissa =
        nearestNat (y * 2 ^ e / place (y * 2 ^ e)) ∧
      (shiftToTargetExponent Format.binary64 m e a).2 = placeExponent (y * 2 ^ e) := by
  have hm : ⌊y⌋₊ = m := by
    rw [h.floor]
    rcases a with _ | o
    · rfl
    · cases o <;> rfl
  have ht := targetExponent_eq hm hy he
  unfold shiftToTargetExponent shiftToExponent
  simp only
  set k := (Format.binary64.targetExponent (totalExponent m e) - e).toNat with hk
  have hke : e + k = placeExponent (y * 2 ^ e) := by omega
  refine ⟨?_, hke⟩
  rw [(h.shiftRight k).roundedMantissa, place, ← hke, zpow_add₀ (by norm_num), zpow_natCast]
  congr 1
  field_simp

/-- A rounded significand is shifted once more only if it has grown to the next power of two. -/
theorem shiftToTargetExponent_rounded {n : ℕ} {e : ℤ} (hn : n ≤ 2 ^ 53) (he : leastExponent ≤ e) :
    (shiftToTargetExponent Format.binary64 n e .exact).1.mantissa =
        (if n = 2 ^ 53 then 2 ^ 52 else n) ∧
      (shiftToTargetExponent Format.binary64 n e .exact).2 = if n = 2 ^ 53 then e + 1 else e := by
  have ht : Format.binary64.targetExponent (totalExponent n e) =
      max ((n.log2 : ℤ) + 1 + e - 53) (-1074) := rfl
  have he' : -1074 ≤ e := he
  unfold shiftToTargetExponent shiftToExponent
  simp only [ht]
  split_ifs with h
  · subst h
    have hk : (max (((2 ^ 53 : ℕ).log2 : ℤ) + 1 + e - 53) (-1074) - e).toNat = 1 := by
      rw [Nat.log2_two_pow]
      omega
    rw [hk]
    exact ⟨rfl, rfl⟩
  · have hlog : n.log2 ≤ 52 := by
      rcases Nat.eq_zero_or_pos n with rfl | hp
      · simp
      · have := (Nat.log2_lt hp.ne').mpr (lt_of_le_of_ne hn h)
        omega
    have hk : (max ((n.log2 : ℤ) + 1 + e - 53) (-1074) - e).toNat = 0 := by omega
    rw [hk]
    exact ⟨rfl, by simp⟩

/-- The nearest multiple of the last place has 53 digits, or it lies at the least exponent. -/
theorem inRange_nearestNat {x : ℝ} (hx : 0 < x) (h : nearestNat (x / place x) < 2 ^ 53) :
    InRange (nearestNat (x / place x)) (placeExponent x) := by
  refine ⟨h, leastExponent_le_placeExponent x, ?_⟩
  by_cases he : placeExponent x = leastExponent
  · exact Or.inr he
  · exact Or.inl (le_nearestNat ((le_div_iff₀ (place_pos x)).mpr (two_pow_mul_place_le hx he)))

/-- The rounding steps of a double compute the nearest double. -/
theorem roundWithAccuracy_pack (s : Sign) {m : ℕ} {e : ℤ} {a : Accuracy} {y : ℝ}
    (h : IsResidue (.ofMantissaAndAccuracy m a) y) (hy : 0 < y)
    (he : e ≤ placeExponent (y * 2 ^ e)) :
    Defined ⟨Float.Model.pack (roundWithAccuracy Format.binary64 s m e a)⟩ ∧
      value ⟨Float.Model.pack (roundWithAccuracy Format.binary64 s m e a)⟩ =
        signed s (roundedAbs (y * 2 ^ e)) := by
  set x := y * 2 ^ e with hxdef
  have hx : 0 < x := by positivity
  obtain ⟨h₁, h₂⟩ := shiftToTargetExponent_spec h hy he
  rw [← hxdef] at h₁ h₂
  set n := nearestNat (x / place x) with hn
  have hn53 : n ≤ 2 ^ 53 := by
    apply nearestNat_le
    rw [div_le_iff₀ (place_pos x)]
    exact_mod_cast (lt_two_pow_mul_place x).le
  obtain ⟨h₃, h₄⟩ := shiftToTargetExponent_rounded hn53 (leastExponent_le_placeExponent x)
  have hgrid : onGrid x = n * 2 ^ placeExponent x := rfl
  unfold roundWithAccuracy
  simp only [h₁, h₂, h₃, h₄]
  by_cases hc : n = 2 ^ 53
  · have hr : InRange (2 ^ 52) (placeExponent x + 1) :=
      ⟨by norm_num, (leastExponent_le_placeExponent x).trans (by omega), Or.inl le_rfl⟩
    have hv : (((2 ^ 52 : ℕ) : ℝ)) * 2 ^ (placeExponent x + 1) = onGrid x := by
      rw [hgrid, hc, zpow_add₀ (by norm_num)]
      push_cast
      ring
    obtain ⟨hd, hval⟩ := value_pack s (by norm_num) hr
    rw [hv] at hval
    simp only [hc, if_true]
    rw [dif_neg (by norm_num)]
    exact ⟨hd, hval⟩
  · simp only [hc, if_false]
    by_cases hz : n = 0
    · rw [dif_pos hz]
      have hzero : roundedAbs x = 0 := by
        rw [roundedAbs, hgrid, hz]
        simp [limit_pos.le]
      rw [hzero]
      cases s <;> simp [Defined, value, signed]
    · rw [dif_neg hz]
      exact value_pack s _ (inRange_nearestNat hx (lt_of_le_of_ne hn53 hc))

end TextIntent.Binary64
