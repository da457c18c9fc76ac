import TextIntent.Proofs.Binary64.Order
import TextIntent.Proofs.Binary64.Residue

/-! The operations on doubles. A result `IsNearest` the number that the operation has in the reals; this
is proved for finite operands of every operation, and for sums of infinite ones with the same sign. -/
namespace TextIntent.Binary64

open Float.Model (Format UnpackedFloat totalExponent)
open Float.Model.UnpackedFloat

/-- The double nearest to a number, infinite if the number is too large. -/
def IsNearest (x : Float) (r : ℝ) : Prop := Defined x ∧ value x = rounded r

theorem IsNearest.of_eq {x : Float} {r s : ℝ} (h : IsNearest x r) (he : r = s) : IsNearest x s :=
  he ▸ h

/-- A defined double is nearest to its own value. -/
theorem Defined.isNearest {x : Float} (h : Defined x) : IsNearest x (value x) :=
  ⟨h, (rounded_value x).symm⟩

theorem IsNearest.value_le {x y : Float} {r : ℝ} (h : IsNearest x r) (hr : r ≤ value y) :
    value x ≤ value y := by
  rw [h.2, ← rounded_value y]
  exact rounded_mono hr

theorem IsNearest.le_value {x y : Float} {r : ℝ} (h : IsNearest x r) (hr : value y ≤ r) :
    value y ≤ value x := by
  rw [h.2, ← rounded_value y]
  exact rounded_mono hr

theorem IsNearest.nonneg {x : Float} {r : ℝ} (h : IsNearest x r) (hr : 0 ≤ r) : 0 ≤ value x := by
  rw [h.2]
  exact rounded_nonneg hr

theorem IsNearest.abs_value_le {x y : Float} {r : ℝ} (h : IsNearest x r) (hr : |r| ≤ |value y|) :
    |value x| ≤ |value y| := by
  rw [h.2, ← rounded_value y, ← rounded_abs, ← rounded_abs]
  exact rounded_mono hr

/-- No overflow within the range of a finite double. -/
theorem IsNearest.isFinite {x y : Float} {r : ℝ} (h : IsNearest x r) (hy : y.isFinite = true)
    (hr : |r| ≤ |value y|) : x.isFinite = true :=
  (isFinite_iff x).mpr ⟨h.1, (h.abs_value_le hr).trans_lt ((isFinite_iff y).mp hy).2⟩

/-- Rounding a significand of any length. -/
theorem round_pack (s : Sign) {m : ℕ} (e : ℤ) (hm : 0 < m) :
    Defined ⟨Float.Model.pack (UnpackedFloat.round Format.binary64 s m e)⟩ ∧
      value ⟨Float.Model.pack (UnpackedFloat.round Format.binary64 s m e)⟩ = signed s (roundedAbs (m * 2 ^ e)) := by
  have ht : Format.binary64.targetExponent (totalExponent m e) =
      max ((m.log2 : ℤ) + 1 + e - 53) (-1074) := rfl
  have hlog : Int.log 2 ((m : ℝ) * 2 ^ e) = m.log2 + e :=
    log_mul_two_zpow (Nat.floor_natCast m) hm e
  unfold UnpackedFloat.round decreaseExponent
  simp only [ht]
  set k := (e - max ((m.log2 : ℤ) + 1 + e - 53) (-1074)).toNat with hk
  have hx : (m : ℝ) * 2 ^ e = ((m <<< k : ℕ) : ℝ) * 2 ^ (e - k) := by
    rw [Nat.shiftLeft_eq, zpow_sub₀ (by norm_num), zpow_natCast]
    push_cast
    field_simp
  have hpos : 0 < m <<< k := Nat.shiftLeft_pos_iff.mpr hm
  rw [hx]
  refine roundWithAccuracy_pack s (isResidue_exact _) (by exact_mod_cast hpos) ?_
  rw [← hx, placeExponent, hlog]
  unfold leastExponent
  omega

theorem isNearest_normalize (m e : ℤ) :
    IsNearest ⟨Float.Model.pack (UnpackedFloat.normalize Format.binary64 m e .positive)⟩ (m * 2 ^ e) := by
  rcases lt_trichotomy m 0 with h | rfl | h
  · obtain ⟨n, rfl⟩ : ∃ n : ℕ, m = -n := ⟨(-m).toNat, by omega⟩
    obtain ⟨hd, hv⟩ := round_pack .negative e (show 0 < n by omega)
    have hn : UnpackedFloat.normalize Format.binary64 (-n) e .positive =
        UnpackedFloat.round Format.binary64 .negative n e := by
      unfold UnpackedFloat.normalize
      rw [Int.compare_eq_lt.mpr h]
      simp
    rw [hn]
    refine ⟨hd, hv.trans ?_⟩
    rw [show (((-n : ℤ) : ℝ)) * 2 ^ e = -(n * 2 ^ e) by push_cast; ring, rounded_neg,
      rounded_of_nonneg (by positivity), signed]
  · refine ⟨by simp [UnpackedFloat.normalize, Defined], ?_⟩
    simp [UnpackedFloat.normalize, value]
  · obtain ⟨n, rfl⟩ : ∃ n : ℕ, m = n := ⟨m.toNat, by omega⟩
    obtain ⟨hd, hv⟩ := round_pack .positive e (show 0 < n by omega)
    have hn : UnpackedFloat.normalize Format.binary64 n e .positive =
        UnpackedFloat.round Format.binary64 .positive n e := by
      unfold UnpackedFloat.normalize
      rw [Int.compare_eq_gt.mpr h]
      simp
    rw [hn]
    refine ⟨hd, hv.trans ?_⟩
    rw [rounded_of_nonneg (by positivity), signed]
    simp

theorem rounded_signed (s : Sign) (x : ℝ) : rounded (signed s x) = signed s (rounded x) := by
  cases s
  · exact rounded_neg x
  · rfl

theorem signed_mul_signed (s t : Sign) (x y : ℝ) :
    signed s x * signed t y = signed (s * t) (x * y) := by
  cases s <;> cases t
  · exact neg_mul_neg x y
  · exact neg_mul x y
  · exact mul_neg x y
  · rfl

theorem signed_div_signed (s t : Sign) (x y : ℝ) :
    signed s x / signed t y = signed (s / t) (x / y) := by
  cases s <;> cases t
  · exact neg_div_neg_eq x y
  · exact neg_div y x
  · exact div_neg x
  · rfl

theorem signed_apply (s : Sign) (m : ℕ) : ((s.apply m : ℤ) : ℝ) = signed s m := by
  cases s <;> simp [Sign.apply, signed]

/-- A signed significand can be written with a smaller exponent. -/
theorem decreaseExponent_mul (s : Sign) (m : ℕ) {e f : ℤ} (h : f ≤ e) :
    ((s.apply (decreaseExponent m e f).1 : ℤ) : ℝ) * 2 ^ f = signed s (m * 2 ^ e) := by
  have hk : ((e - f).toNat : ℤ) = e - f := by omega
  have hm : (((decreaseExponent m e f).1 : ℕ) : ℝ) * 2 ^ f = m * 2 ^ e := by
    change (((m <<< (e - f).toNat : ℕ)) : ℝ) * 2 ^ f = _
    rw [Nat.shiftLeft_eq]
    push_cast
    rw [← zpow_natCast, hk, mul_assoc, ← zpow_add₀ (by norm_num)]
    congr 2
    ring
  rw [signed_apply]
  cases s
  · simp only [signed, neg_mul, hm]
  · simp only [signed, hm]

/-- A finite double is a zero, or has a positive significand. -/
theorem unpack_of_isFinite {x : Float} (h : x.isFinite = true) :
    (∃ s, x.toModel.unpack = .zero s) ∨
      ∃ s m e, ∃ hm : 0 < m, x.toModel.unpack = .finite s m e hm := by
  change x.toModel.unpack.isFinite = true at h
  cases hu : x.toModel.unpack with
  | notANumber => simp [hu, UnpackedFloat.isFinite] at h
  | infinity s => simp [hu, UnpackedFloat.isFinite] at h
  | zero s => exact Or.inl ⟨s, rfl⟩
  | finite s m e hm => exact Or.inr ⟨s, m, e, hm, rfl⟩

theorem value_of_unpack_finite {x : Float} {s : Sign} {m : ℕ} {e : ℤ} {hm : 0 < m}
    (h : x.toModel.unpack = .finite s m e hm) : value x = signed s (m * 2 ^ e) := by
  rw [value, h, unpackedValue_finite]

theorem value_of_unpack_positive {x : Float} {m : ℕ} {e : ℤ} {hm : 0 < m}
    (h : x.toModel.unpack = .finite .positive m e hm) : value x = m * 2 ^ e := by
  rw [value_of_unpack_finite h, signed_positive]

theorem value_of_unpack_zero {x : Float} {s : Sign} (h : x.toModel.unpack = .zero s) :
    value x = 0 := by
  rw [value, h, unpackedValue_zero]

theorem isNearest_pack_zero (s : Sign) : IsNearest ⟨Float.Model.pack (.zero s)⟩ 0 := by
  cases s <;> simp [IsNearest, Defined, value]

/-- Packing undoes unpacking, also under the other sign. -/
theorem isNearest_pack_finite {x : Float} {s : Sign} {m : ℕ} {e : ℤ} {hm : 0 < m}
    (h : x.toModel.unpack = .finite s m e hm) (t : Sign) :
    IsNearest ⟨Float.Model.pack (.finite t m e hm)⟩ (signed t (m * 2 ^ e)) := by
  obtain ⟨hr, he⟩ := inRange_of_unpack h
  have hu : (Float.Model.pack (.finite t m e hm)).unpack = .finite t m e hm := by
    rw [unpack_pack t hm hr, if_pos he]
  have hd : Defined ⟨Float.Model.pack (.finite t m e hm)⟩ := by
    unfold Defined
    rw [hu]
    simp
  refine hd.isNearest.of_eq ?_
  rw [value, hu, unpackedValue_finite]

theorem isNearest_add {x y : Float} (hx : x.isFinite = true) (hy : y.isFinite = true) :
    IsNearest (x + y) (value x + value y) := by
  change IsNearest ⟨Float.Model.pack (UnpackedFloat.add Format.binary64 x.toModel.unpack
    y.toModel.unpack)⟩ _
  rcases unpack_of_isFinite hx with ⟨s, h₁⟩ | ⟨s, m, e, hm, h₁⟩ <;>
    rcases unpack_of_isFinite hy with ⟨t, h₂⟩ | ⟨t, n, f, hn, h₂⟩ <;> rw [h₁, h₂]
  · rw [value_of_unpack_zero h₁, value_of_unpack_zero h₂]
    rw [add_zero]
    cases s <;> cases t <;> exact isNearest_pack_zero _
  · rw [value_of_unpack_zero h₁, value_of_unpack_finite h₂, zero_add]
    exact isNearest_pack_finite h₂ t
  · rw [value_of_unpack_finite h₁, value_of_unpack_zero h₂, add_zero]
    exact isNearest_pack_finite h₁ s
  · refine (isNearest_normalize _ _).of_eq ?_
    rw [Int.cast_add, add_mul, value_of_unpack_finite h₁, value_of_unpack_finite h₂]
    exact congrArg₂ (· + ·) (decreaseExponent_mul s m (min_le_left e f))
      (decreaseExponent_mul t n (min_le_right e f))

theorem isNearest_sub {x y : Float} (hx : x.isFinite = true) (hy : y.isFinite = true) :
    IsNearest (x - y) (value x - value y) := by
  change IsNearest ⟨Float.Model.pack (UnpackedFloat.sub Format.binary64 x.toModel.unpack
    y.toModel.unpack)⟩ _
  rcases unpack_of_isFinite hx with ⟨s, h₁⟩ | ⟨s, m, e, hm, h₁⟩ <;>
    rcases unpack_of_isFinite hy with ⟨t, h₂⟩ | ⟨t, n, f, hn, h₂⟩ <;> rw [h₁, h₂]
  · rw [value_of_unpack_zero h₁, value_of_unpack_zero h₂]
    rw [sub_zero]
    cases s <;> cases t <;> exact isNearest_pack_zero _
  · rw [value_of_unpack_zero h₁, value_of_unpack_finite h₂, zero_sub, ← signed_neg]
    exact isNearest_pack_finite h₂ (-t)
  · rw [value_of_unpack_finite h₁, value_of_unpack_zero h₂, sub_zero]
    exact isNearest_pack_finite h₁ s
  · refine (isNearest_normalize _ _).of_eq ?_
    rw [Int.cast_sub, sub_mul, value_of_unpack_finite h₁, value_of_unpack_finite h₂]
    exact congrArg₂ (· - ·) (decreaseExponent_mul s m (min_le_left e f))
      (decreaseExponent_mul t n (min_le_right e f))

/-- The last place of a product is not below the product of the last places. -/
theorem add_le_placeExponent_mul {m n : ℕ} {e f : ℤ} (hm : 0 < m) (hn : 0 < n) (h₁ : InRange m e)
    (h₂ : InRange n f) : e + f ≤ placeExponent (((m * n : ℕ) : ℝ) * 2 ^ (e + f)) := by
  rw [placeExponent, log_mul_two_zpow (Nat.floor_natCast (m * n)) (Nat.mul_pos hm hn)]
  have hl {k : ℕ} (hk : 2 ^ 52 ≤ k) : 52 ≤ k.log2 := (Nat.le_log2 (by omega)).mpr hk
  rcases h₁.full with hf | he
  · have := hl (hf.trans (Nat.le_mul_of_pos_right m hn))
    omega
  · rcases h₂.full with hf | hf
    · have := hl (hf.trans (Nat.le_mul_of_pos_left n hm))
      omega
    · unfold leastExponent at *
      omega

theorem isNearest_mul {x y : Float} (hx : x.isFinite = true) (hy : y.isFinite = true) :
    IsNearest (x * y) (value x * value y) := by
  change IsNearest ⟨Float.Model.pack (UnpackedFloat.mul Format.binary64 x.toModel.unpack
    y.toModel.unpack)⟩ _
  rcases unpack_of_isFinite hx with ⟨s, h₁⟩ | ⟨s, m, e, hm, h₁⟩ <;>
    rcases unpack_of_isFinite hy with ⟨t, h₂⟩ | ⟨t, n, f, hn, h₂⟩ <;> rw [h₁, h₂]
  · rw [value_of_unpack_zero h₁, zero_mul]
    exact isNearest_pack_zero _
  · rw [value_of_unpack_zero h₁, zero_mul]
    exact isNearest_pack_zero _
  · rw [value_of_unpack_zero h₂, mul_zero]
    exact isNearest_pack_zero _
  · have hpos : (0 : ℝ) < ((m * n : ℕ) : ℝ) := by exact_mod_cast Nat.mul_pos hm hn
    obtain ⟨hd, hv⟩ := roundWithAccuracy_pack (s * t) (isResidue_exact (m * n)) hpos
      (add_le_placeExponent_mul hm hn (inRange_of_unpack h₁).1 (inRange_of_unpack h₂).1)
    refine ⟨hd, hv.trans ?_⟩
    have hx' : ((m * n : ℕ) : ℝ) * 2 ^ (e + f) = (m * 2 ^ e) * (n * 2 ^ f) := by
      rw [zpow_add₀ (by norm_num)]
      push_cast
      ring
    rw [hx', value_of_unpack_finite h₁, value_of_unpack_finite h₂, signed_mul_signed,
      rounded_signed, rounded_of_nonneg (by positivity)]

/-- The quotient of two significands with the remainder to tell how it is rounded. -/
theorem isResidue_div (m : ℕ) {n : ℕ} (hn : 0 < n) :
    IsResidue (.ofMantissaAndAccuracy (m / n) (accuracyOfFraction (m % n) n)) ((m : ℝ) / n) := by
  have hn' : (0 : ℝ) < n := by exact_mod_cast hn
  have hdm : (m : ℝ) = n * (m / n : ℕ) + (m % n : ℕ) := by exact_mod_cast (Nat.div_add_mod m n).symm
  have hq : (m : ℝ) / n = (m / n : ℕ) + ((m % n : ℕ) : ℝ) / n := by
    field_simp
    linarith
  have hr : ((m % n : ℕ) : ℝ) < n := by exact_mod_cast Nat.mod_lt m hn
  unfold accuracyOfFraction
  rw [hq]
  split_ifs with h
  · rw [h]
    simpa using isResidue_exact (m / n)
  · have hpos : (0 : ℝ) < (m % n : ℕ) := by exact_mod_cast Nat.pos_of_ne_zero h
    refine isResidue_inexact (lt_add_of_pos_right _ (div_pos hpos hn')) ?_ ?_ ?_ ?_
    · rw [add_lt_add_iff_left, div_lt_one hn']
      exact hr
    · intro ho
      have : ((2 * (m % n) : ℕ) : ℝ) < n := by exact_mod_cast compare_lt_iff_lt.mp ho
      push_cast at this
      rw [add_lt_add_iff_left, div_lt_div_iff₀ hn' (by norm_num)]
      linarith
    · intro ho
      have : ((2 * (m % n) : ℕ) : ℝ) = n := by exact_mod_cast compare_eq_iff_eq.mp ho
      push_cast at this
      rw [add_right_inj, div_eq_div_iff hn'.ne' (by norm_num)]
      linarith
    · intro ho
      have : (n : ℝ) < ((2 * (m % n) : ℕ) : ℝ) := by exact_mod_cast compare_gt_iff_gt.mp ho
      push_cast at this
      rw [add_lt_add_iff_left, div_lt_div_iff₀ (by norm_num) hn']
      linarith

/-- The logarithm of a quotient against those of numerator and denominator. -/
theorem log_sub_log_le_log_div {x y : ℝ} (hx : 0 < x) (hy : 0 < y) :
    Int.log 2 x - Int.log 2 y - 1 ≤ Int.log 2 (x / y) := by
  rw [← Int.zpow_le_iff_le_log (by norm_num) (div_pos hx hy), le_div_iff₀ hy]
  have h₁ : ((2 : ℕ) : ℝ) ^ Int.log 2 x ≤ x := Int.zpow_log_le_self (by norm_num) hx
  have h₂ : y < ((2 : ℕ) : ℝ) ^ (Int.log 2 y + 1) := Int.lt_zpow_succ_log_self (by norm_num) y
  calc ((2 : ℕ) : ℝ) ^ (Int.log 2 x - Int.log 2 y - 1) * y
      ≤ ((2 : ℕ) : ℝ) ^ (Int.log 2 x - Int.log 2 y - 1) * ((2 : ℕ) : ℝ) ^ (Int.log 2 y + 1) :=
        mul_le_mul_of_nonneg_left h₂.le (by positivity)
    _ = ((2 : ℕ) : ℝ) ^ Int.log 2 x := by
      rw [← zpow_add₀ (by norm_num)]
      congr 1
      ring
    _ ≤ x := h₁

theorem isNearest_div {x y : Float} (hx : x.isFinite = true) (hy : y.isFinite = true)
    (h0 : value y ≠ 0) : IsNearest (x / y) (value x / value y) := by
  change IsNearest ⟨Float.Model.pack (UnpackedFloat.div Format.binary64 x.toModel.unpack
    y.toModel.unpack)⟩ _
  rcases unpack_of_isFinite hy with ⟨t, h₂⟩ | ⟨t, n, f, hn, h₂⟩
  · exact absurd (value_of_unpack_zero h₂) h0
  rcases unpack_of_isFinite hx with ⟨s, h₁⟩ | ⟨s, m, e, hm, h₁⟩ <;> rw [h₁, h₂]
  · rw [value_of_unpack_zero h₁, zero_div]
    exact isNearest_pack_zero _
  set D := min (e - f) (Format.binary64.targetExponent (totalExponent m e - totalExponent n f))
    with hD
  have ht : Format.binary64.targetExponent (totalExponent m e - totalExponent n f) =
      max (((m.log2 : ℤ) + 1 + e) - ((n.log2 : ℤ) + 1 + f) - 53) (-1074) := rfl
  have hm' : (0 : ℝ) < m := by exact_mod_cast hm
  have hn' : (0 : ℝ) < n := by exact_mod_cast hn
  have hx' : (((m <<< (e - f - D).toNat : ℕ) : ℝ) / n) * 2 ^ D = (m * 2 ^ e) / (n * 2 ^ f) := by
    have hk : ((e - f - D).toNat : ℤ) = e - f - D := by omega
    rw [Nat.shiftLeft_eq]
    push_cast
    rw [← zpow_natCast, hk, zpow_sub₀ (by norm_num), zpow_sub₀ (by norm_num)]
    field_simp
  have hpos : 0 < ((m <<< (e - f - D).toNat : ℕ) : ℝ) / n := by
    have : 0 < m <<< (e - f - D).toNat := Nat.shiftLeft_pos_iff.mpr hm
    positivity
  have hplace : D ≤ placeExponent ((((m <<< (e - f - D).toNat : ℕ) : ℝ) / n) * 2 ^ D) := by
    have hlog := log_sub_log_le_log_div (x := m * 2 ^ e) (y := n * 2 ^ f) (by positivity)
      (by positivity)
    rw [log_mul_two_zpow (Nat.floor_natCast m) hm, log_mul_two_zpow (Nat.floor_natCast n) hn] at hlog
    rw [hx', placeExponent]
    unfold leastExponent
    omega
  obtain ⟨hd, hv⟩ := roundWithAccuracy_pack (s / t) (isResidue_div _ hn) hpos hplace
  refine ⟨hd, hv.trans ?_⟩
  rw [hx', value_of_unpack_finite h₁, value_of_unpack_finite h₂, signed_div_signed,
    rounded_signed, rounded_of_nonneg (by positivity)]

end TextIntent.Binary64
