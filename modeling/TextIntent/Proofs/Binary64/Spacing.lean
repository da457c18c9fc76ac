import TextIntent.Proofs.Binary64.Sums

/-! How far doubles are apart. Numbers that differ by more than the last place are not rounded to the
same double, and after a power of two the next double is one last place away. -/
namespace TextIntent.Binary64

theorem place_le_of_lt {x : ℝ} {k : ℤ} (hx : 0 < x) (hk : leastExponent ≤ k - 53)
    (h : x < 2 ^ k) : place x ≤ 2 ^ (k - 53) := by
  refine zpow_le_zpow_right₀ (by norm_num) (max_le ?_ hk)
  have hlog : Int.log 2 x < k := (Int.lt_zpow_iff_log_lt (by norm_num) hx).mp (by exact_mod_cast h)
  omega

/-- Numbers below a power of two that differ by more than a last place are kept apart. -/
theorem rounded_lt_rounded {x y : ℝ} {k : ℤ} (hx : 0 < x) (hk : leastExponent ≤ k - 53)
    (hk' : k ≤ 1024) (hy : y < 2 ^ k) (h : 2 ^ (k - 53) < y - x) : rounded x < rounded y := by
  have hstep : (0 : ℝ) < 2 ^ (k - 53) := by positivity
  have hpx := place_le_of_lt hx hk (by linarith)
  have hpy := place_le_of_lt (by linarith) hk hy
  have hgx := (abs_le.mp (abs_onGrid_sub_le hx.le)).2
  have hgy := (abs_le.mp (abs_onGrid_sub_le (by linarith : 0 ≤ y))).1
  have hlimit : (2 : ℝ) ^ k ≤ limit := by
    rw [limit, ← zpow_natCast]
    exact zpow_le_zpow_right₀ (by norm_num) (by exact_mod_cast hk')
  rw [rounded_of_nonneg hx.le, rounded_of_nonneg (by linarith)]
  refine lt_min ?_ ?_
  · exact (min_le_left _ _).trans_lt (by linarith)
  · exact (min_le_left _ _).trans_lt (by linarith)

theorem value_le_limit (x : Float) : value x ≤ limit := by
  rw [← rounded_value]
  exact (le_abs_self _).trans (abs_rounded_le_limit _)

/-- A double below infinity is a whole number of its last places. -/
theorem onGrid_value {x : Float} (h₀ : 0 ≤ value x) (h : value x < limit) :
    onGrid (value x) = value x := by
  have hr : roundedAbs (value x) = value x := by
    rw [← rounded_of_nonneg h₀, rounded_value]
  rw [← roundedAbs_eq_onGrid (hr.trans_lt h), hr]

/-- The next double after a power of two. -/
theorem next_le_value {x : Float} {k : ℤ} (hk : leastExponent ≤ k - 52) (h : 2 ^ k < value x) :
    2 ^ k + 2 ^ (k - 52) ≤ value x := by
  have hstep : (0 : ℝ) < 2 ^ (k - 52) := by positivity
  have hpow : (2 : ℝ) ^ k = 2 ^ 52 * 2 ^ (k - 52) := by
    rw [← zpow_natCast, ← zpow_add₀ (by norm_num)]
    norm_num
  rcases lt_or_ge (value x) (2 ^ (k + 1)) with hlt | hge
  · have hlimit : value x < limit := by
      have hmax : (2 : ℝ) ^ k < 2 ^ (1024 : ℤ) := h.trans_le (value_le_limit x)
      have hk' : k < 1024 := (zpow_lt_zpow_iff_right₀ (by norm_num)).mp hmax
      exact hlt.trans_le (zpow_le_zpow_right₀ (n := 1024) (by norm_num) (by omega))
    have hgrid := onGrid_value ((by positivity : (0 : ℝ) ≤ 2 ^ k).trans h.le) hlimit
    rw [onGrid, place, placeExponent_eq h.le hlt, max_eq_left hk] at hgrid
    -- more than `2 ^ 52` last places
    generalize nearestNat (value x / 2 ^ (k - 52)) = n at hgrid
    rw [← hgrid, hpow] at h
    have hn : 2 ^ 52 < n := by exact_mod_cast lt_of_mul_lt_mul_right h hstep.le
    have hn' : (2 : ℝ) ^ 52 + 1 ≤ n := by exact_mod_cast hn
    calc (2 : ℝ) ^ k + 2 ^ (k - 52) = (2 ^ 52 + 1) * 2 ^ (k - 52) := by
          rw [hpow]
          ring
      _ ≤ n * 2 ^ (k - 52) := by gcongr
      _ = value x := hgrid
  · have hle : (2 : ℝ) ^ (k - 52) ≤ 2 ^ k := zpow_le_zpow_right₀ (by norm_num) (by omega)
    rw [zpow_add_one₀ (by norm_num)] at hge
    linarith

/-- The next double after one. -/
theorem one_add_le_value {x : Float} (h : 1 < value x) : 1 + 2 ^ (-52 : ℤ) ≤ value x := by
  simpa using next_le_value (k := 0) (by decide) (by simpa using h)

end TextIntent.Binary64
