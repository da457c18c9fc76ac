import TextIntent.Proofs.Binary64.Bits

/-! The bits of the double nearest to a ratio, against rounding as a function on the reals. -/
namespace TextIntent.Binary64

/-- A number is nearest to each real within half a unit, ends included if the number is even. -/
theorem nearestNat_eq {m : ℕ} {y : ℝ} (hy : 0 ≤ y) (h₁ : (m : ℝ) - 1 / 2 ≤ y) (h₂ : y ≤ m + 1 / 2)
    (h : m % 2 = 0 ∨ (m : ℝ) - 1 / 2 < y ∧ y < m + 1 / 2) : nearestNat y = m := by
  rcases le_or_gt (m : ℝ) y with hm | hm
  · have hf : ⌊y⌋₊ = m := (Nat.floor_eq_iff hy).mpr ⟨hm, by linarith⟩
    unfold nearestNat
    rw [hf]
    split_ifs with c₁ c₂
    · rfl
    · linarith
    · rcases h with h | h
      · omega
      · linarith
  · obtain ⟨k, rfl⟩ : ∃ k, m = k + 1 := by
      refine Nat.exists_eq_succ_of_ne_zero ?_
      rintro rfl
      simp only [Nat.cast_zero] at hm
      linarith
    push_cast at *
    have hf : ⌊y⌋₊ = k := (Nat.floor_eq_iff hy).mpr ⟨by linarith, hm⟩
    unfold nearestNat
    rw [hf]
    split_ifs with c₁ c₂
    · linarith
    · rfl
    · rcases h with h | h
      · omega
      · linarith

/-- Division of natural numbers to the nearest is rounding of the real quotient. -/
theorem roundDiv_toEven (n : ℕ) {d : ℕ} (hd : 0 < d) :
    roundDiv .toEven n d = nearestNat ((n : ℝ) / d) := by
  have hd' : (0 : ℝ) < d := by exact_mod_cast hd
  have hq : (n : ℝ) / d - (n / d : ℕ) = ((n % d : ℕ) : ℝ) / d := by
    have h : (n : ℝ) = d * (n / d : ℕ) + (n % d : ℕ) := by
      exact_mod_cast (Nat.div_add_mod n d).symm
    field_simp
    linarith
  have h₁ : ((n % d : ℕ) : ℝ) / d < 1 / 2 ↔ 2 * (n % d) < d := by
    rw [div_lt_div_iff₀ hd' (by norm_num), one_mul, mul_comm]
    exact_mod_cast Iff.rfl
  have h₂ : 1 / 2 < ((n % d : ℕ) : ℝ) / d ↔ d < 2 * (n % d) := by
    rw [div_lt_div_iff₀ (by norm_num) hd', one_mul, mul_comm]
    exact_mod_cast Iff.rfl
  unfold roundDiv nearestNat Tie.takesUpper
  rw [Nat.floor_div_eq_div, hq]
  simp only [h₁, h₂, Bool.or_eq_true, Bool.and_eq_true, decide_eq_true_eq, reduceCtorEq, false_or]
  split_ifs <;> omega

/-- Shifting does not change the ratio but for the power of two. -/
theorem shifted_div (n : ℕ) {d : ℕ} (hd : 0 < d) (e : ℤ) :
    0 < (shifted n d e).2 ∧
      ((shifted n d e).1 : ℝ) / (shifted n d e).2 = (n : ℝ) / d / 2 ^ e := by
  have hd' : (d : ℝ) ≠ 0 := by exact_mod_cast hd.ne'
  cases e with
  | ofNat k =>
    refine ⟨Nat.shiftLeft_pos_iff.mpr hd, ?_⟩
    simp only [shifted, Nat.shiftLeft_eq, Int.ofNat_eq_natCast, zpow_natCast]
    push_cast
    rw [div_div]
  | negSucc k =>
    refine ⟨hd, ?_⟩
    simp only [shifted, Nat.shiftLeft_eq, zpow_negSucc]
    push_cast
    field_simp

theorem two_zpow_log2_le {n : ℕ} (hn : 0 < n) : (2 : ℝ) ^ (n.log2 : ℤ) ≤ n := by
  rw [zpow_natCast]
  exact_mod_cast Nat.log2_self_le hn.ne'

theorem lt_two_zpow_log2 (n : ℕ) : (n : ℝ) < 2 ^ ((n.log2 : ℤ) + 1) := by
  rw [← Nat.cast_succ, zpow_natCast]
  exact_mod_cast Nat.lt_log2_self

/-- The number of binary digits of a ratio, up to one. -/
theorem ratio_bounds {n d : ℕ} (hn : 0 < n) (hd : 0 < d) :
    (2 : ℝ) ^ ((n.log2 : ℤ) - d.log2 - 1) ≤ (n : ℝ) / d ∧
      (n : ℝ) / d < 2 ^ ((n.log2 : ℤ) - d.log2 + 1) := by
  have hd' : (0 : ℝ) < d := by exact_mod_cast hd
  rw [le_div_iff₀ hd', div_lt_iff₀ hd']
  constructor
  · calc (2 : ℝ) ^ ((n.log2 : ℤ) - d.log2 - 1) * d
        ≤ 2 ^ ((n.log2 : ℤ) - d.log2 - 1) * 2 ^ ((d.log2 : ℤ) + 1) :=
          mul_le_mul_of_nonneg_left (lt_two_zpow_log2 d).le (by positivity)
      _ = 2 ^ (n.log2 : ℤ) := by
        rw [← zpow_add₀ (by norm_num)]
        congr 1
        omega
      _ ≤ n := two_zpow_log2_le hn
  · calc (n : ℝ) < 2 ^ ((n.log2 : ℤ) + 1) := lt_two_zpow_log2 n
      _ = 2 ^ ((n.log2 : ℤ) - d.log2 + 1) * 2 ^ (d.log2 : ℤ) := by
        rw [← zpow_add₀ (by norm_num)]
        congr 1
        omega
      _ ≤ 2 ^ ((n.log2 : ℤ) - d.log2 + 1) * d :=
        mul_le_mul_of_nonneg_left (two_zpow_log2_le hd) (by positivity)

/-- The exponent of a ratio is that of the last place of the doubles next to it. -/
theorem ratioExponent_eq {n d : ℕ} (hn : 0 < n) (hd : 0 < d) :
    ratioExponent n d = placeExponent ((n : ℝ) / d) := by
  obtain ⟨hlow, hhigh⟩ := ratio_bounds hn hd
  set x := (n : ℝ) / d
  set g : ℤ := (n.log2 : ℤ) - d.log2 - 52 with hg
  obtain ⟨hpos, hdiv⟩ := shifted_div n hd g
  rw [show (n.log2 : ℤ) - d.log2 - 1 = g + 51 by omega] at hlow
  rw [show (n.log2 : ℤ) - d.log2 + 1 = g + 53 by omega] at hhigh
  have hcmp : (shifted n d g).1 < (shifted n d g).2 * leadingBit ↔ x < 2 ^ (g + 52) := by
    have hp : (0 : ℝ) < (shifted n d g).2 := by exact_mod_cast hpos
    have hl : (leadingBit : ℝ) = 2 ^ (52 : ℤ) := by
      change ((2 ^ 52 : ℕ) : ℝ) = _
      norm_num
    rw [← @Nat.cast_lt ℝ, Nat.cast_mul, ← div_lt_iff₀' hp, hdiv, hl, div_lt_iff₀ (by positivity),
      ← zpow_add₀ (by norm_num), add_comm]
  have he : ratioExponent n d =
      max (if (shifted n d g).1 < (shifted n d g).2 * leadingBit then g - 1 else g) leastExponent := by
    unfold ratioExponent
    simp only [← hg]
    split_ifs <;> omega
  rw [he]
  split_ifs with c
  · rw [placeExponent_eq (k := g + 51) hlow (by simpa [add_assoc] using hcmp.mp c)]
    congr 1
    omega
  · rw [placeExponent_eq (k := g + 52) (not_lt.mp (mt hcmp.mpr c)) (by simpa [add_assoc] using hhigh)]
    congr 1
    omega

/-- The bits of a ratio: its nearest multiple of the last place, with the exponent of that place. -/
theorem ratioBits_eq {n d : ℕ} (hn : 0 < n) (hd : 0 < d) :
    ratioBits n d = min (magnitudeBits (nearestNat ((n : ℝ) / d / place ((n : ℝ) / d)))
      (placeExponent ((n : ℝ) / d))) infinityBits := by
  obtain ⟨hpos, hdiv⟩ := shifted_div n hd (placeExponent ((n : ℝ) / d))
  unfold ratioBits
  rw [if_neg hn.ne', ratioExponent_eq hn hd]
  simp only
  rw [roundDiv_toEven _ hpos, hdiv]
  rfl

end TextIntent.Binary64
