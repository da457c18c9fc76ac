import TextIntent.Decimal.Style
import TextIntent.Proofs.Decimal.Shortest

/-! A finite double is read back from the numeral it is written as, whatever the style. -/
namespace TextIntent.Decimal

open Binary64

theorem two_pow_le_ten_pow (n : ℕ) : 2 ^ n ≤ 10 ^ (n / 3 + 1) := by
  calc 2 ^ n ≤ 2 ^ (3 * (n / 3 + 1)) := Nat.pow_le_pow_right (by norm_num) (by omega)
    _ = 8 ^ (n / 3 + 1) := by rw [pow_mul]; norm_num
    _ ≤ 10 ^ (n / 3 + 1) := Nat.pow_le_pow_left (by norm_num) _

theorem ten_pow_le_two_pow (n : ℕ) : 10 ^ (n * 3 / 10) ≤ 2 ^ n := by
  refine (Nat.pow_le_pow_iff_left (n := 10) (by norm_num)).mp ?_
  calc (10 ^ (n * 3 / 10)) ^ 10 = 10 ^ (10 * (n * 3 / 10)) := by rw [← pow_mul, mul_comm]
    _ ≤ 10 ^ (3 * n) := Nat.pow_le_pow_right (by norm_num) (by omega)
    _ = 1000 ^ n := by rw [pow_mul]; norm_num
    _ ≤ 1024 ^ n := Nat.pow_le_pow_left (by norm_num) n
    _ = (2 ^ n) ^ 10 := by rw [← pow_mul, mul_comm, pow_mul]; norm_num

/-- A number in the basin of a positive double is not below every double. -/
theorem InBasin.two_zpow_le {m : ℕ} {q : ℤ} {x : ℝ} (hm : 0 < m) (hr : InRange m q)
    (h : InBasin m q x) : (2 : ℝ) ^ (-1075 : ℤ) ≤ x := by
  have h₁ : (1 : ℝ) ≤ m := by exact_mod_cast hm
  have h₂ : 1 / 2 ≤ x / 2 ^ q := by linarith [h.near.1]
  have h₃ : (2 : ℝ) ^ (-1074 : ℤ) ≤ 2 ^ q := zpow_le_zpow_right₀ (by norm_num) hr.le
  calc (2 : ℝ) ^ (-1075 : ℤ) = 1 / 2 * 2 ^ (-1074 : ℤ) := by
        rw [show (-1075 : ℤ) = -1 + -1074 by norm_num, zpow_add₀ (by norm_num)]
        norm_num
    _ ≤ 1 / 2 * 2 ^ q := mul_le_mul_of_nonneg_left h₃ (by norm_num)
    _ ≤ x := (le_div_iff₀ (by positivity)).mp h₂

section Range

variable {m n : ℕ} {q scale : ℤ}

theorem InBasin.digits_pos (hm : 0 < m) (h : InBasin m q (n * 10 ^ scale)) : 0 < n := by
  have hx := h.pos hm
  refine Nat.pos_of_ne_zero ?_
  rintro rfl
  simp at hx

/-- The scale alone does not put the digits below all doubles: they would be less than half the
smallest one. -/
theorem InBasin.le_scale (hm : 0 < m) (hr : InRange m q) (h : InBasin m q (n * 10 ^ scale)) :
    -330 ≤ scale + ((n.log2 : ℤ) + 1) / 3 + 1 := by
  by_contra hc
  have h₁ : (n : ℝ) < 10 ^ (((n.log2 : ℤ) + 1) / 3 + 1) := by
    have : n < 10 ^ ((n.log2 + 1) / 3 + 1) := Nat.lt_log2_self.trans_le (two_pow_le_ten_pow _)
    exact_mod_cast this
  have h₂ : (n : ℝ) * 10 ^ scale < 10 ^ (-331 : ℤ) := by
    calc (n : ℝ) * 10 ^ scale < 10 ^ (((n.log2 : ℤ) + 1) / 3 + 1) * 10 ^ scale :=
          mul_lt_mul_of_pos_right h₁ (by positivity)
      _ = 10 ^ (((n.log2 : ℤ) + 1) / 3 + 1 + scale) := (zpow_add₀ (by norm_num) _ _).symm
      _ ≤ 10 ^ (-331 : ℤ) := zpow_le_zpow_right₀ (by norm_num) (by omega)
  have h₃ : (10 : ℝ) ^ (-331 : ℤ) ≤ 2 ^ (-1075 : ℤ) := by
    have : 2 ^ 1075 ≤ 10 ^ 331 := by decide +kernel
    rw [zpow_neg, zpow_neg]
    refine inv_anti₀ (by positivity) ?_
    exact_mod_cast this
  exact absurd (h.two_zpow_le hm hr) (not_le.mpr (h₂.trans_le h₃))

/-- Nor does it put them past all doubles: digits of that many bits would be more than the limit. -/
theorem InBasin.scale_le (hm : 0 < m) (hr : InRange m q) (hq : q ≤ 971)
    (h : InBasin m q (n * 10 ^ scale)) : scale + (n.log2 : ℤ) * 3 / 10 ≤ 310 := by
  by_contra hc
  have hn := h.digits_pos hm
  have h₁ : (10 : ℝ) ^ ((n.log2 : ℤ) * 3 / 10) ≤ n := by
    have : 10 ^ (n.log2 * 3 / 10) ≤ n := (ten_pow_le_two_pow _).trans (Nat.log2_self_le hn.ne')
    exact_mod_cast this
  have h₂ : (10 : ℝ) ^ (309 : ℤ) ≤ n * 10 ^ scale := by
    calc (10 : ℝ) ^ (309 : ℤ) ≤ 10 ^ ((n.log2 : ℤ) * 3 / 10 + scale) :=
          zpow_le_zpow_right₀ (by norm_num) (by omega)
      _ = 10 ^ ((n.log2 : ℤ) * 3 / 10) * 10 ^ scale := zpow_add₀ (by norm_num) _ _
      _ ≤ n * 10 ^ scale := mul_le_mul_of_nonneg_right h₁ (by positivity)
  exact absurd (limit_lt_tenTo.trans_le h₂) (not_lt.mpr (h.lt_limit hr hq).le)

/-- Digits with a scale that lie in the basin of a double are read as that double. -/
theorem parts_nearestDouble (s : Bool) (hm : 0 < m) (hr : InRange m q) (hq : q ≤ 971)
    (h : InBasin m q (n * 10 ^ scale)) :
    parts (Numeral.nearestDouble s n scale) = .finite s m q := by
  have hn := h.digits_pos hm
  have hlow := h.le_scale hm hr
  have hhigh := h.scale_le hm hr hq
  have hd : 0 < tenTo (-scale).toNat := tenTo_pos _
  have he : ((n * tenTo scale.toNat : ℕ) : ℝ) / tenTo (-scale).toNat = n * 10 ^ scale := by
    rw [Nat.cast_mul, cast_tenTo, cast_tenTo, zpow_natCast, zpow_natCast, mul_div_assoc,
      pow_toNat_div_pow_toNat]
  unfold Numeral.nearestDouble
  simp only
  rw [if_neg (not_or.mpr ⟨hn.ne', not_lt.mpr hlow⟩), if_neg (not_lt.mpr hhigh), ofRatio,
    ratioBits_of_inBasin hm hr hq hd (he.symm ▸ h)]
  exact parts_withSign s (parts_ofBits hr hq)

end Range

theorem parts_zero : parts 0 = .finite false 0 leastExponent := rfl

/-- A zero keeps its sign. -/
theorem parts_toDouble_zero (s : Bool) (places : ℕ) :
    parts (Numeral.mk s 0 places none).toDouble = .finite s 0 leastExponent := by
  have hlt : (Numeral.mk s 0 places none).digits < tenTo 768 := tenTo_pos 768
  unfold Numeral.toDouble
  rw [Numeral.decisive_of_lt hlt]
  unfold Numeral.nearestDouble
  rw [if_pos (Or.inl rfl)]
  exact parts_withSign s parts_zero

/-- The layouts of a numeral: a whole number with zeros for the scale, with or without a point, a
fraction, and digits with an exponent. -/
theorem Style.numeral_cases (style : Style) (s : Bool) (n : ℕ) (scale : ℤ) :
    (∃ k : ℕ, scale = k ∧ style.numeral s n scale = ⟨s, n * tenTo (k + 1), 1, none⟩) ∨
    (∃ k : ℕ, scale = k ∧ style.numeral s n scale = ⟨s, n * tenTo k, 0, none⟩) ∨
    (∃ k : ℕ, scale = -(k : ℤ) ∧ style.numeral s n scale = ⟨s, n, k, none⟩) ∨
    ∃ k : ℕ, style.numeral s n scale = ⟨s, n, k, some (scale + k)⟩ := by
  have hl : 0 < (Nat.toDigits 10 n).length := Nat.length_toDigits_pos
  unfold Style.numeral
  simp only
  by_cases hp : style.positional (scale + (Nat.toDigits 10 n).length - 1)
  · rw [if_pos hp]
    cases scale with
    | ofNat k =>
      by_cases hz : style.pointZero
      · exact Or.inl ⟨k, rfl, if_pos hz⟩
      · exact Or.inr (Or.inl ⟨k, rfl, if_neg hz⟩)
    | negSucc k => exact Or.inr (Or.inr (Or.inl ⟨k + 1, rfl, rfl⟩))
  · rw [if_neg hp]
    refine Or.inr (Or.inr (Or.inr ⟨(Nat.toDigits 10 n).length - 1, ?_⟩))
    congr 2
    omega

@[simp] theorem Style.negative_numeral (style : Style) (s : Bool) (n : ℕ) (scale : ℤ) :
    (style.numeral s n scale).negative = s := by
  rcases style.numeral_cases s n scale with ⟨k, -, h⟩ | ⟨k, -, h⟩ | ⟨k, -, h⟩ | ⟨k, h⟩ <;> rw [h]

/-- The numeral has the value of the digits. -/
theorem Style.numeral_value (style : Style) (s : Bool) (n : ℕ) (scale : ℤ) :
    ((style.numeral s n scale).digits : ℝ) * 10 ^ (style.numeral s n scale).scale = n * 10 ^ scale := by
  rcases style.numeral_cases s n scale with ⟨k, rfl, h⟩ | ⟨k, rfl, h⟩ | ⟨k, rfl, h⟩ | ⟨k, h⟩ <;>
    rw [h] <;> simp only [Numeral.scale, Option.getD_none, Option.getD_some]
  · rw [Nat.cast_mul, cast_tenTo, mul_assoc, ← zpow_add₀ (by norm_num)]
    congr 2
    push_cast
    ring
  · simp
  · rw [zero_sub]
  · rw [add_sub_cancel_right]

/-- Only the zeros of a whole number are added to the digits. -/
theorem Style.numeral_digits (style : Style) (s : Bool) (n : ℕ) (scale : ℤ) :
    (style.numeral s n scale).digits = n ∨
      ((style.numeral s n scale).digits : ℝ) ≤ n * 10 ^ (scale + 1) := by
  rcases style.numeral_cases s n scale with ⟨k, rfl, h⟩ | ⟨k, rfl, h⟩ | ⟨k, rfl, h⟩ | ⟨k, h⟩ <;>
    rw [h]
  · refine Or.inr (le_of_eq ?_)
    rw [Nat.cast_mul, cast_tenTo]
    rfl
  · refine Or.inr ?_
    rw [Nat.cast_mul, cast_tenTo]
    exact mul_le_mul_of_nonneg_left (zpow_le_zpow_right₀ (by norm_num) (by omega)) (Nat.cast_nonneg n)
  · exact Or.inl rfl
  · exact Or.inl rfl

/-- The sign and the parts of a numeral read as a double, whatever its style. -/
theorem Style.parts_toDouble (style : Style) (s : Bool) {m : ℕ} {q : ℤ} (hm : 0 < m)
    (hr : InRange m q) (hq : q ≤ 971) :
    parts (style.numeral s (shortest style.tie m q).1 (shortest style.tie m q).2).toDouble =
      .finite s m q := by
  have hb := shortest_inBasin style.tie hm q
  set n := (shortest style.tie m q).1
  set scale := (shortest style.tie m q).2
  have hlt : (style.numeral s n scale).digits < tenTo 768 := by
    rcases style.numeral_digits s n scale with h | h
    · exact h.trans_lt (shortest_lt style.tie hm hr hq)
    · have hx := (hb.lt_limit hr hq).trans limit_lt_tenTo
      refine natCast_lt_tenTo (h.trans_lt ?_)
      calc (n : ℝ) * 10 ^ (scale + 1) = n * 10 ^ scale * 10 := by
            rw [zpow_add_one₀ (by norm_num), mul_assoc]
        _ < 10 ^ (309 : ℤ) * 10 := mul_lt_mul_of_pos_right hx (by norm_num)
        _ = 10 ^ (310 : ℤ) := (zpow_add_one₀ (by norm_num) 309).symm
        _ ≤ 10 ^ ((768 : ℕ) : ℤ) := zpow_le_zpow_right₀ (by norm_num) (by norm_num)
  unfold Numeral.toDouble
  rw [Numeral.decisive_of_lt hlt, style.negative_numeral]
  refine parts_nearestDouble s hm hr hq ?_
  rw [style.numeral_value]
  exact hb

/-- A finite double is written as a numeral that is read as that double, bit for bit. -/
theorem Style.toDouble?_numeral? (style : Style) {x : Float} (hx : x.isFinite = true) :
    ∃ n, style.numeral? x = some n ∧ n.toDouble? = some x := by
  obtain ⟨s, m, q, hp⟩ := (isFinite_iff_parts x).mp hx
  obtain ⟨hr, hq, -⟩ := toBits_of_parts hp
  have read {n : Numeral} (hn : parts n.toDouble = .finite s m q) : n.toDouble? = some x := by
    unfold Numeral.toDouble?
    simp only [eq_of_parts hn hp, hx, if_true]
  unfold Style.numeral?
  rw [hp]
  rcases Nat.eq_zero_or_pos m with rfl | hm
  · simp only [if_true]
    refine ⟨_, rfl, read ?_⟩
    have hq0 : q = leastExponent := hr.full.resolve_left (by norm_num)
    rw [hq0]
    exact parts_toDouble_zero s _
  · simp only [hm.ne', if_false]
    exact ⟨_, rfl, read (style.parts_toDouble s hm hr hq)⟩

/-- An infinite or undefined double has no numeral. -/
theorem Style.numeral?_of_not_isFinite (style : Style) {x : Float} (hx : ¬x.isFinite = true) :
    style.numeral? x = none := by
  unfold Style.numeral?
  split
  · next s m q hp => exact absurd ((isFinite_iff_parts x).mpr ⟨s, m, q, hp⟩) hx
  · rfl

end TextIntent.Decimal
