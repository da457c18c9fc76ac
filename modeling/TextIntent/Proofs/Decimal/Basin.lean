import TextIntent.Decimal.Shortest
import TextIntent.Proofs.Binary64.Ratio

/-! Every number in the basin of a double is rounded to that double. Rounding looks at the last place
of the number and not at that of the double, and the two differ just below a power of two. -/
namespace TextIntent.Decimal

open Binary64

/-- The real number lies in the basin, on the scale of the basin. -/
def Basin.Contains (d : Basin) (y : ℝ) : Prop :=
  d.centre - d.below ≤ y ∧ y ≤ d.centre + d.above ∧
    (d.closed = true ∨ d.centre - d.below < y ∧ y < d.centre + d.above)

theorem Basin.contains_of_holds {d : Basin} (hd : d.below ≤ d.centre) {a b c : ℕ} (hb : 0 < b)
    (h : d.holds a b c = true) : d.Contains (((c * a : ℕ) : ℝ) / b) := by
  have hb' : (0 : ℝ) < b := by exact_mod_cast hb
  unfold Basin.holds at h
  unfold Basin.Contains
  rw [← Nat.cast_sub hd, ← Nat.cast_add, le_div_iff₀ hb', div_le_iff₀ hb', lt_div_iff₀ hb',
    div_lt_iff₀ hb']
  split_ifs at h with hc
  · simp only [Bool.and_eq_true, decide_eq_true_eq] at h
    exact ⟨by exact_mod_cast h.1, by exact_mod_cast h.2, Or.inl hc⟩
  · simp only [Bool.and_eq_true, decide_eq_true_eq] at h
    exact ⟨by exact_mod_cast h.1.le, by exact_mod_cast h.2.le,
      Or.inr ⟨by exact_mod_cast h.1, by exact_mod_cast h.2⟩⟩

/-- The number lies in the basin of `m · 2 ^ q`. -/
def InBasin (m : ℕ) (q : ℤ) (x : ℝ) : Prop := (Basin.of m q).Contains (4 * (x / weight q))

theorem inBasin_iff {m : ℕ} {q : ℤ} {x : ℝ} :
    InBasin m q x ↔ (Basin.of m q).Contains (4 * (x / 2 ^ q)) := Iff.rfl

section Bounds

variable {m : ℕ} {q : ℤ} {x : ℝ}

/-- A number in the basin is at most half a last place away, and in the middle only if the significand
is even. -/
theorem InBasin.near (h : InBasin m q x) :
    (m : ℝ) - 1 / 2 ≤ x / 2 ^ q ∧ x / 2 ^ q ≤ m + 1 / 2 ∧
      (m % 2 = 0 ∨ (m : ℝ) - 1 / 2 < x / 2 ^ q ∧ x / 2 ^ q < m + 1 / 2) := by
  have hb : ((Basin.of m q).below : ℝ) ≤ 2 := by
    unfold Basin.of
    split_ifs <;> norm_num
  obtain ⟨h₁, h₂, h₃⟩ := inBasin_iff.mp h
  simp only [Basin.of, Nat.cast_mul, Nat.cast_ofNat, decide_eq_true_eq] at h₁ h₂ h₃ hb
  refine ⟨by linarith, by linarith, h₃.imp id fun h => ⟨by linarith, by linarith⟩⟩

/-- Below a power of two the basin reaches down only half as far. -/
theorem InBasin.near_below (h : InBasin leadingBit q x) (hq : leastExponent < q) :
    (leadingBit : ℝ) - 1 / 4 ≤ x / 2 ^ q := by
  have h₁ := (inBasin_iff.mp h).1
  simp only [Basin.of, hq, and_true, if_true, Nat.cast_mul, Nat.cast_ofNat, Nat.cast_one] at h₁
  linarith

theorem InBasin.pos (hm : 0 < m) (h : InBasin m q x) : 0 < x := by
  have h₁ : (1 : ℝ) ≤ m := by exact_mod_cast hm
  have h₂ : 0 < x / 2 ^ q := by linarith [h.near.1]
  exact (div_pos_iff_of_pos_right (by positivity)).mp h₂

/-- The last place of a number in the basin is that of the double or, below a power of two, the one
before. -/
theorem InBasin.placeExponent (hm : 0 < m) (hr : InRange m q) (h : InBasin m q x) :
    placeExponent x = q ∨
      placeExponent x = q - 1 ∧ m = leadingBit ∧ leastExponent < q ∧ x / 2 ^ q < leadingBit := by
  have hx := h.pos hm
  have hl : (leadingBit : ℝ) = 2 ^ (52 : ℤ) := by
    change ((2 ^ 52 : ℕ) : ℝ) = _
    norm_num
  have hlt : x < 2 ^ (q + 53) := by
    have h₁ : (m : ℝ) + 1 ≤ 2 ^ 53 := by exact_mod_cast hr.lt
    rw [zpow_add₀ (by norm_num), mul_comm, ← div_lt_iff₀ (by positivity)]
    refine lt_of_lt_of_le (by linarith [h.near.2.1]) h₁
  have hup : Int.log 2 x < q + 53 := by
    exact (Int.lt_zpow_iff_log_lt (by norm_num) hx).mp (by exact_mod_cast hlt)
  have hlow {k : ℤ} (hk : 2 ^ k ≤ x / 2 ^ q) : q + k ≤ Int.log 2 x := by
    refine (Int.zpow_le_iff_le_log (by norm_num) hx).mp ?_
    rw [le_div_iff₀ (by positivity), ← zpow_add₀ (by norm_num), add_comm] at hk
    exact_mod_cast hk
  have hle := hr.le
  unfold Binary64.placeExponent
  rcases le_or_gt (leadingBit : ℝ) (x / 2 ^ q) with hc | hc
  · have := hlow (hl ▸ hc)
    omega
  · rcases hle.eq_or_lt with he | he
    · omega
    · have hf : 2 ^ 52 ≤ m := hr.full.resolve_right (by omega)
      have hmb : m = leadingBit := by
        have h₁ : (m : ℝ) < leadingBit + 1 := by linarith [h.near.1]
        have h₂ : m < leadingBit + 1 := by exact_mod_cast h₁
        exact le_antisymm (by omega) hf
      have h₃ := (hmb ▸ h).near_below he
      have h₄ := hlow (k := 51) (by rw [hl] at h₃; norm_num at h₃ ⊢; linarith)
      have h₅ : Int.log 2 x < q + 52 := by
        refine (Int.lt_zpow_iff_log_lt (by norm_num) hx).mp ?_
        rw [div_lt_iff₀ (by positivity), hl, ← zpow_add₀ (by norm_num), add_comm] at hc
        exact_mod_cast hc
      refine Or.inr ⟨by omega, hmb, he, hc⟩

end Bounds

/-- A ratio in the basin of a double has the bits of that double. -/
theorem ratioBits_of_inBasin {m n d : ℕ} {q : ℤ} (hm : 0 < m) (hr : InRange m q) (hq : q ≤ 971)
    (hd : 0 < d) (h : InBasin m q ((n : ℝ) / d)) : ratioBits n d = magnitudeBits m q := by
  have hx := h.pos hm
  have hn : 0 < n := by
    refine Nat.pos_of_ne_zero ?_
    rintro rfl
    simp at hx
  rw [ratioBits_eq hn hd, place]
  rcases h.placeExponent hm hr with he | ⟨he, rfl, hlt, hc⟩
  · obtain ⟨h₁, h₂, h₃⟩ := h.near
    rw [he, nearestNat_eq (by positivity) h₁ h₂ h₃, min_eq_left (magnitudeBits_lt hr hq).le]
  · have h₁ := h.near_below hlt
    have hp : (n : ℝ) / d / 2 ^ (q - 1) = 2 * ((n : ℝ) / d / 2 ^ q) := by
      rw [zpow_sub₀ (by norm_num), zpow_one]
      ring
    -- in the smaller place the number is rounded up to a power of two, which carries into the exponent
    have hn' : nearestNat ((n : ℝ) / d / 2 ^ (q - 1)) = 2 * leadingBit := by
      rw [hp]
      refine nearestNat_eq (by positivity) ?_ ?_ (Or.inl (by omega)) <;> push_cast <;> linarith
    have hb : magnitudeBits (2 * leadingBit) (q - 1) = magnitudeBits leadingBit q := by
      unfold magnitudeBits
      obtain ⟨k, hk⟩ : ∃ k, (q - leastExponent).toNat = k + 1 :=
        Nat.exists_eq_succ_of_ne_zero (by omega)
      rw [hk, show (q - 1 - leastExponent).toNat = k by omega]
      ring
    rw [he, hn', hb, min_eq_left (magnitudeBits_lt hr hq).le]

end TextIntent.Decimal
