import Mathlib
import TextIntent.Numeric.Binary64

/-! Rounding of a real number to the nearest double, as a function on the reals. Every number that is
too large for a double is sent to `limit`, which stands for infinity, so that rounding is monotone on
the whole line. -/
namespace TextIntent.Binary64

/-- The natural number nearest to a nonnegative real, an exact half going to the even one. -/
noncomputable def nearestNat (x : ℝ) : ℕ :=
  if x - ⌊x⌋₊ < 1 / 2 then ⌊x⌋₊
  else if 1 / 2 < x - ⌊x⌋₊ then ⌊x⌋₊ + 1
  else ⌊x⌋₊ + ⌊x⌋₊ % 2

@[simp] theorem nearestNat_natCast (n : ℕ) : nearestNat n = n := by simp [nearestNat]

theorem floor_le_nearestNat (x : ℝ) : ⌊x⌋₊ ≤ nearestNat x := by
  unfold nearestNat
  split_ifs <;> omega

theorem nearestNat_le_floor_add_one (x : ℝ) : nearestNat x ≤ ⌊x⌋₊ + 1 := by
  unfold nearestNat
  split_ifs <;> omega

theorem nearestNat_mono {x y : ℝ} (h : x ≤ y) : nearestNat x ≤ nearestNat y := by
  have hf : ⌊x⌋₊ ≤ ⌊y⌋₊ := Nat.floor_mono h
  rcases hf.eq_or_lt with he | hl
  · unfold nearestNat
    rw [he]
    split_ifs <;> first | omega | linarith
  · calc nearestNat x ≤ ⌊x⌋₊ + 1 := nearestNat_le_floor_add_one x
      _ ≤ ⌊y⌋₊ := hl
      _ ≤ nearestNat y := floor_le_nearestNat y

theorem le_nearestNat {n : ℕ} {x : ℝ} (h : (n : ℝ) ≤ x) : n ≤ nearestNat x := by
  simpa using nearestNat_mono h

theorem nearestNat_le {n : ℕ} {x : ℝ} (h : x ≤ n) : nearestNat x ≤ n := by
  simpa using nearestNat_mono h

/-- The nearest integer is off by half a unit at most. -/
theorem abs_nearestNat_sub_le {x : ℝ} (h : 0 ≤ x) : |(nearestNat x : ℝ) - x| ≤ 1 / 2 := by
  have hl := Nat.floor_le h
  have hu := Nat.lt_floor_add_one x
  unfold nearestNat
  split_ifs with h₁ h₂
  · rw [abs_le]; constructor <;> linarith
  · push_cast
    rw [abs_le]; constructor <;> linarith
  · rcases Nat.mod_two_eq_zero_or_one ⌊x⌋₊ with hm | hm <;> rw [hm] <;> push_cast <;>
      rw [abs_le] <;> constructor <;> linarith

/-- What a binary digit counts in a place. -/
noncomputable def weight (e : ℤ) : ℝ := 2 ^ e

/-- The exponent of the last place of the doubles next to a positive number. -/
noncomputable def placeExponent (x : ℝ) : ℤ := max (Int.log 2 x - 52) leastExponent

/-- The distance of two doubles next to a positive number. -/
noncomputable def place (x : ℝ) : ℝ := 2 ^ placeExponent x

/-- The first number that is too large for a double. -/
noncomputable def limit : ℝ := 2 ^ 1024

theorem weight_neg_one : weight (-1) = 1 / 2 := by
  rw [weight, zpow_neg_one, one_div]

theorem limit_pos : 0 < limit := by unfold limit; positivity

theorem place_pos (x : ℝ) : 0 < place x := by unfold place; positivity

theorem placeExponent_mono {x y : ℝ} (hx : 0 < x) (h : x ≤ y) :
    placeExponent x ≤ placeExponent y :=
  max_le_max (Int.sub_le_sub_right (Int.log_mono_right hx h) 52) le_rfl

theorem leastExponent_le_placeExponent (x : ℝ) : leastExponent ≤ placeExponent x :=
  le_max_right _ _

theorem placeExponent_eq {x : ℝ} {k : ℤ} (h₁ : 2 ^ k ≤ x) (h₂ : x < 2 ^ (k + 1)) :
    placeExponent x = max (k - 52) leastExponent := by
  have hx : 0 < x := lt_of_lt_of_le (by positivity) h₁
  have hl : k ≤ Int.log 2 x := (Int.zpow_le_iff_le_log (by norm_num) hx).mp (by exact_mod_cast h₁)
  have hu : Int.log 2 x < k + 1 := (Int.lt_zpow_iff_log_lt (by norm_num) hx).mp (by exact_mod_cast h₂)
  rw [placeExponent, show Int.log 2 x = k by omega]

/-- A positive number has at most 53 digits above its last place. -/
theorem lt_two_pow_mul_place (x : ℝ) : x < 2 ^ 53 * place x := by
  have h : x < (2 : ℝ) ^ (Int.log 2 x + 1) := by
    exact_mod_cast Int.lt_zpow_succ_log_self (by norm_num) x
  refine h.trans_le ?_
  have he : ((2 : ℝ) ^ 53 : ℝ) = (2 : ℝ) ^ (53 : ℤ) := by norm_num
  rw [place, he, ← zpow_add₀ (by norm_num)]
  refine zpow_le_zpow_right₀ (by norm_num) ?_
  have hm : Int.log 2 x - 52 ≤ placeExponent x := le_max_left _ _
  omega

/-- Above the least exponent a positive number has all 53 digits above its last place. -/
theorem two_pow_mul_place_le {x : ℝ} (hx : 0 < x) (h : placeExponent x ≠ leastExponent) :
    ((2 ^ 52 : ℕ) : ℝ) * place x ≤ x := by
  have hlog : placeExponent x = Int.log 2 x - 52 := by
    unfold placeExponent at h ⊢
    omega
  have hb : ((2 : ℕ) : ℝ) ^ Int.log 2 x ≤ x := Int.zpow_log_le_self (by norm_num) hx
  have hc : ((2 ^ 52 : ℕ) : ℝ) = (2 : ℝ) ^ (52 : ℤ) := by norm_num
  rw [place, hc, ← zpow_add₀ (by norm_num), hlog]
  simpa using hb

/-- The nearest multiple of the last place. -/
noncomputable def onGrid (x : ℝ) : ℝ := nearestNat (x / place x) * place x

theorem onGrid_nonneg (x : ℝ) : 0 ≤ onGrid x :=
  mul_nonneg (Nat.cast_nonneg _) (place_pos x).le

/-- A multiple of the last place is not crossed. -/
theorem le_onGrid {x : ℝ} {n : ℕ} (h : n * place x ≤ x) : n * place x ≤ onGrid x := by
  have hn : (n : ℝ) ≤ x / place x := (le_div_iff₀ (place_pos x)).mpr h
  exact mul_le_mul_of_nonneg_right (by exact_mod_cast le_nearestNat hn) (place_pos x).le

theorem onGrid_le {x : ℝ} {n : ℕ} (h : x ≤ n * place x) : onGrid x ≤ n * place x := by
  have hn : x / place x ≤ n := (div_le_iff₀ (place_pos x)).mpr h
  exact mul_le_mul_of_nonneg_right (by exact_mod_cast nearestNat_le hn) (place_pos x).le

/-- Numbers on both sides of a change of the last place are kept apart by the power of two where it
changes. -/
theorem onGrid_mono {x y : ℝ} (hx : 0 < x) (h : x ≤ y) : onGrid x ≤ onGrid y := by
  have hy : 0 < y := hx.trans_le h
  rcases (placeExponent_mono hx h).eq_or_lt with he | hl
  · have hp : place x = place y := by rw [place, place, he]
    rw [onGrid, onGrid, hp]
    refine mul_le_mul_of_nonneg_right ?_ (place_pos y).le
    exact_mod_cast nearestNat_mono (div_le_div_of_nonneg_right h (place_pos y).le)
  · have hpow : ((2 ^ 52 : ℕ) : ℝ) * place y ≤ y :=
      two_pow_mul_place_le hy ((leastExponent_le_placeExponent x).trans_lt hl).ne'
    have hdouble : 2 * place x ≤ place y := by
      have h2 : (2 : ℝ) * 2 ^ placeExponent x = 2 ^ (placeExponent x + 1) := by
        rw [zpow_add₀ (by norm_num), zpow_one]
        ring
      rw [place, place, h2]
      exact zpow_le_zpow_right₀ (by norm_num) (by omega)
    have hxle : x ≤ ((2 ^ 53 : ℕ) : ℝ) * place x := by exact_mod_cast (lt_two_pow_mul_place x).le
    calc onGrid x ≤ ((2 ^ 53 : ℕ) : ℝ) * place x := onGrid_le hxle
      _ = 2 ^ 52 * (2 * place x) := by push_cast; ring
      _ ≤ ((2 ^ 52 : ℕ) : ℝ) * place y := by push_cast; linarith
      _ ≤ onGrid y := le_onGrid hpow

/-- A number with at most 53 digits, none of them too small for a double, is its own nearest
multiple. -/
theorem onGrid_eq_self {m : ℕ} {e : ℤ} (hm : m < 2 ^ 53) (he : leastExponent ≤ e) (h : 0 < m) :
    onGrid (m * 2 ^ e) = m * 2 ^ e := by
  have hp : placeExponent ((m : ℝ) * 2 ^ e) ≤ e := by
    have hx : 0 < (m : ℝ) * 2 ^ e := by positivity
    have hlt : (m : ℝ) * 2 ^ e < ((2 : ℕ) : ℝ) ^ (53 + e) := by
      have hm' : (m : ℝ) < 2 ^ (53 : ℤ) := by exact_mod_cast hm
      push_cast
      rw [zpow_add₀ (by norm_num)]
      exact mul_lt_mul_of_pos_right hm' (by positivity)
    have hlog := (Int.lt_zpow_iff_log_lt (by norm_num) hx).mp hlt
    unfold placeExponent
    omega
  have hq : (m : ℝ) * 2 ^ e / place (m * 2 ^ e) =
      ((m * 2 ^ (e - placeExponent ((m : ℝ) * 2 ^ e)).toNat : ℕ) : ℝ) := by
    have hk : ((e - placeExponent ((m : ℝ) * 2 ^ e)).toNat : ℤ) =
        e - placeExponent ((m : ℝ) * 2 ^ e) := by omega
    push_cast
    rw [← zpow_natCast, hk, zpow_sub₀ (by norm_num), place]
    ring
  rw [onGrid, hq, nearestNat_natCast, ← hq]
  exact div_mul_cancel₀ _ (place_pos _).ne'

/-- The nearest multiple is off by half a last place at most. -/
theorem abs_onGrid_sub_le {x : ℝ} (h : 0 ≤ x) : |onGrid x - x| ≤ place x / 2 := by
  have hp := place_pos x
  have hn := abs_nearestNat_sub_le (div_nonneg h hp.le)
  have he : onGrid x - x = (nearestNat (x / place x) - x / place x) * place x := by
    rw [onGrid, sub_mul, div_mul_cancel₀ _ hp.ne']
  rw [he, abs_mul, abs_of_pos hp]
  nlinarith

/-- The last place of a positive number is small against the number, or the smallest there is. -/
theorem place_le {x : ℝ} (h : 0 < x) : place x ≤ x / 2 ^ 52 + 2 ^ leastExponent := by
  have hl : 0 < (2 : ℝ) ^ leastExponent := by positivity
  by_cases he : placeExponent x = leastExponent
  · rw [place, he]
    exact le_add_of_nonneg_left (by positivity)
  · have hfull : place x ≤ x / 2 ^ 52 := by
      rw [le_div_iff₀' (by positivity)]
      exact_mod_cast two_pow_mul_place_le h he
    exact hfull.trans (le_add_of_nonneg_right hl.le)

/-- The nearest double to a nonnegative number, or `limit` for infinity. -/
noncomputable def roundedAbs (x : ℝ) : ℝ := min (onGrid x) limit

/-- The nearest double, of even significand if there are two, with `limit` for infinity. -/
noncomputable def rounded (x : ℝ) : ℝ := if x < 0 then -roundedAbs (-x) else roundedAbs x

theorem roundedAbs_nonneg (x : ℝ) : 0 ≤ roundedAbs x := le_min (onGrid_nonneg x) limit_pos.le

@[simp] theorem roundedAbs_zero : roundedAbs 0 = 0 := by
  simp [roundedAbs, onGrid, nearestNat, limit_pos.le]

theorem roundedAbs_mono {x y : ℝ} (hx : 0 ≤ x) (h : x ≤ y) : roundedAbs x ≤ roundedAbs y := by
  rcases hx.eq_or_lt with rfl | hx
  · simpa using roundedAbs_nonneg y
  · exact min_le_min_right _ (onGrid_mono hx h)

@[simp] theorem rounded_zero : rounded 0 = 0 := by simp [rounded]

theorem rounded_of_nonneg {x : ℝ} (h : 0 ≤ x) : rounded x = roundedAbs x := by
  simp [rounded, not_lt.mpr h]

@[simp] theorem rounded_neg (x : ℝ) : rounded (-x) = -rounded x := by
  rcases lt_trichotomy x 0 with h | rfl | h
  · rw [rounded_of_nonneg (by linarith), rounded, if_pos h, neg_neg]
  · simp
  · rw [rounded_of_nonneg h.le, rounded, if_pos (by linarith), neg_neg]

theorem rounded_nonneg {x : ℝ} (h : 0 ≤ x) : 0 ≤ rounded x := by
  rw [rounded_of_nonneg h]
  exact roundedAbs_nonneg x

theorem rounded_nonpos {x : ℝ} (h : x ≤ 0) : rounded x ≤ 0 := by
  have := rounded_nonneg (neg_nonneg.mpr h)
  rw [rounded_neg] at this
  linarith

/-- Rounding keeps the order. -/
theorem rounded_mono {x y : ℝ} (h : x ≤ y) : rounded x ≤ rounded y := by
  rcases le_or_gt 0 x with hx | hx
  · rw [rounded_of_nonneg hx, rounded_of_nonneg (hx.trans h)]
    exact roundedAbs_mono hx h
  · rcases le_or_gt 0 y with hy | hy
    · exact (rounded_nonpos hx.le).trans (rounded_nonneg hy)
    · rw [rounded, if_pos hx, rounded, if_pos hy]
      exact neg_le_neg (roundedAbs_mono (by linarith) (by linarith))

theorem abs_rounded (x : ℝ) : |rounded x| = roundedAbs |x| := by
  rcases le_or_gt 0 x with h | h
  · rw [rounded_of_nonneg h, abs_of_nonneg (roundedAbs_nonneg x), abs_of_nonneg h]
  · rw [rounded, if_pos h, abs_neg, abs_of_nonneg (roundedAbs_nonneg _), abs_of_neg h]

theorem rounded_abs (x : ℝ) : rounded |x| = |rounded x| := by
  rw [abs_rounded, rounded_of_nonneg (abs_nonneg x)]

theorem abs_rounded_le_limit (x : ℝ) : |rounded x| ≤ limit := by
  rw [abs_rounded]
  exact min_le_right _ _

/-- A significand of 53 digits with a sign and an exponent in range is rounded to itself. -/
theorem rounded_eq_self {m : ℕ} {e : ℤ} (hm : m < 2 ^ 53) (he : leastExponent ≤ e)
    (hl : (m : ℝ) * 2 ^ e ≤ limit) : rounded (m * 2 ^ e) = m * 2 ^ e := by
  rcases Nat.eq_zero_or_pos m with rfl | h
  · simp
  · rw [rounded_of_nonneg (by positivity), roundedAbs, onGrid_eq_self hm he h, min_eq_left hl]

/-- The number after the greatest significand is a power of two, so it is not rounded either. -/
theorem rounded_eq_self_of_le {m : ℕ} {e : ℤ} (hm : m ≤ 2 ^ 53) (he : leastExponent ≤ e)
    (hl : (m : ℝ) * 2 ^ e ≤ limit) : rounded (m * 2 ^ e) = m * 2 ^ e := by
  rcases hm.lt_or_eq with hlt | rfl
  · exact rounded_eq_self hlt he hl
  · have hpow : ((2 ^ 53 : ℕ) : ℝ) * 2 ^ e = ((2 ^ 52 : ℕ) : ℝ) * 2 ^ (e + 1) := by
      rw [zpow_add₀ (by norm_num)]
      push_cast
      ring
    rw [hpow] at hl ⊢
    exact rounded_eq_self (by norm_num) (by omega) hl

theorem rounded_limit : rounded limit = limit := by
  have h : limit = ((1 : ℕ) : ℝ) * 2 ^ (1024 : ℤ) := by
    unfold limit
    norm_num
  rw [h]
  refine rounded_eq_self (by norm_num) (by decide) ?_
  rw [← h]

theorem roundedAbs_eq_onGrid {x : ℝ} (h : roundedAbs x < limit) : roundedAbs x = onGrid x :=
  min_eq_left ((min_lt_iff.mp h).resolve_right (lt_irrefl _)).le

/-- Rounding is off by half a last place at most, as long as nothing overflows. -/
theorem abs_roundedAbs_sub_le {x : ℝ} (hx : 0 ≤ x) (h : roundedAbs x < limit) :
    |roundedAbs x - x| ≤ x / 2 ^ 53 + 2 ^ leastExponent / 2 := by
  rcases hx.eq_or_lt with rfl | hx
  · simp only [roundedAbs_zero, sub_self, abs_zero, zero_div, zero_add]
    positivity
  · have h₁ := abs_onGrid_sub_le hx.le
    have h₂ := place_le hx
    have h₃ : x / 2 ^ 53 = x / 2 ^ 52 / 2 := by ring
    rw [roundedAbs_eq_onGrid h]
    linarith

/-- Overflow begins half a last place below the limit. -/
theorem rounded_lt_limit {x : ℝ} (hx : 0 ≤ x) (h : x < limit - 2 ^ (970 : ℤ)) :
    rounded x < limit := by
  have hs : (0 : ℝ) < 2 ^ (970 : ℤ) := by positivity
  rw [rounded_of_nonneg hx, roundedAbs]
  refine min_lt_iff.mpr (Or.inl ?_)
  rcases hx.eq_or_lt with rfl | hx
  · simpa [onGrid, nearestNat] using limit_pos
  have hlog : Int.log 2 x < 1024 := by
    rw [← Int.lt_zpow_iff_log_lt (by norm_num) hx]
    calc x < limit := h.trans (sub_lt_self _ hs)
      _ = ((2 : ℕ) : ℝ) ^ (1024 : ℤ) := by
        rw [limit, ← zpow_natCast]
        simp only [Nat.cast_ofNat]
  have hp : place x ≤ 2 * 2 ^ (970 : ℤ) := by
    rw [← zpow_one_add₀ (by norm_num), place, placeExponent]
    refine zpow_le_zpow_right₀ (by norm_num) ?_
    unfold leastExponent
    omega
  have hg := (abs_le.mp (abs_onGrid_sub_le hx.le)).2
  generalize (2 : ℝ) ^ (970 : ℤ) = d at *
  linarith

theorem abs_rounded_sub_le {x : ℝ} (h : |rounded x| < limit) :
    |rounded x - x| ≤ |x| / 2 ^ 53 + 2 ^ leastExponent / 2 := by
  rw [abs_rounded] at h
  have hk := abs_roundedAbs_sub_le (abs_nonneg x) h
  rcases le_or_gt 0 x with hx | hx
  · rw [abs_of_nonneg hx] at hk ⊢
    rwa [rounded_of_nonneg hx]
  · rw [abs_of_neg hx] at hk ⊢
    rw [rounded, if_pos hx, ← abs_neg]
    convert hk using 2
    ring

end TextIntent.Binary64
