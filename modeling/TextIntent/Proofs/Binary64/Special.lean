import TextIntent.Proofs.Binary64.Arithmetic

/-! Signs, square roots and counts among the doubles, and what infinite and undefined doubles do in sums
and differences. -/
namespace TextIntent.Binary64

open Float.Model (Format UnpackedFloat totalExponent)
open Float.Model.UnpackedFloat

/-- Changes of the sign are never rounded. -/
theorem defined_abs_iff (x : Float) : Defined x.abs ↔ Defined x := by
  unfold Defined
  change (Float.Model.pack x.toModel.unpack.abs).unpack ≠ _ ↔ _
  cases hu : x.toModel.unpack with
  | notANumber => simp [UnpackedFloat.abs]
  | infinity s => simp [UnpackedFloat.abs]
  | zero s => simp [UnpackedFloat.abs]
  | finite s m e hm =>
    have := (isNearest_pack_finite hu .positive).1
    unfold Defined at this
    simpa [UnpackedFloat.abs] using this

theorem value_abs (x : Float) : value x.abs = |value x| := by
  have hl := limit_pos.le
  conv_rhs => unfold value
  change value ⟨Float.Model.pack x.toModel.unpack.abs⟩ = _
  cases hu : x.toModel.unpack with
  | notANumber => simp [UnpackedFloat.abs, value]
  | infinity s => simp [UnpackedFloat.abs, value, abs_of_nonneg hl]
  | zero s => simp [UnpackedFloat.abs, value]
  | finite s m e hm =>
    obtain ⟨hr, he⟩ := inRange_of_unpack hu
    have hn : 0 ≤ (m : ℝ) * 2 ^ e := by positivity
    simp only [UnpackedFloat.abs, value, unpack_pack _ hm hr, he, if_true, unpackedValue_finite, abs_signed,
      signed_positive, abs_of_nonneg hn]

theorem isFinite_abs {x : Float} (h : x.isFinite = true) : x.abs.isFinite = true := by
  rw [isFinite_iff, defined_abs_iff, value_abs, abs_abs]
  exact (isFinite_iff x).mp h

theorem abs_idem (x : Float) : x.abs.abs = x.abs := by
  change (⟨Float.Model.pack (Float.Model.pack x.toModel.unpack.abs).unpack.abs⟩ : Float) =
    ⟨Float.Model.pack x.toModel.unpack.abs⟩
  cases hu : x.toModel.unpack with
  | notANumber => simp [UnpackedFloat.abs]
  | infinity s => simp [UnpackedFloat.abs]
  | zero s => simp [UnpackedFloat.abs]
  | finite s m e hm =>
    obtain ⟨hr, he⟩ := inRange_of_unpack hu
    simp [UnpackedFloat.abs, unpack_pack _ hm hr, he]

/-- The integer square root with the remainder to tell how it is rounded. -/
theorem isResidue_sqrt (m : ℕ) :
    IsResidue (.ofMantissaAndAccuracy m.sqrt
      (if m - m.sqrt * m.sqrt = 0 then .exact
        else .inexact (if m - m.sqrt * m.sqrt ≤ m.sqrt then .lt else .gt))) (√m) := by
  have h₁ : m.sqrt * m.sqrt ≤ m := Nat.sqrt_le m
  have h₂ : m < (m.sqrt + 1) * (m.sqrt + 1) := Nat.lt_succ_sqrt m
  obtain ⟨d, hd⟩ := Nat.exists_eq_add_of_le h₁
  have hsq : (m : ℝ) = m.sqrt * m.sqrt + d := by exact_mod_cast hd
  have hr : (0 : ℝ) ≤ m.sqrt := Nat.cast_nonneg _
  have hmd : m - m.sqrt * m.sqrt = d := by omega
  rw [hmd]
  split_ifs with h h'
  · have : (√m : ℝ) = m.sqrt := by
      rw [hsq, h, Nat.cast_zero, add_zero, Real.sqrt_mul_self hr]
    rw [this]
    exact isResidue_exact _
  · have hpos : (0 : ℝ) < d := by exact_mod_cast Nat.pos_of_ne_zero h
    have hle : (d : ℝ) ≤ m.sqrt := by exact_mod_cast h'
    refine isResidue_inexact ?_ ?_ (fun _ => ?_) (by simp) (by simp)
    · rw [Real.lt_sqrt hr, hsq]
      nlinarith
    · rw [Real.sqrt_lt' (by positivity), hsq]
      nlinarith
    · rw [Real.sqrt_lt' (by positivity), hsq]
      nlinarith
  · have hlt : (m.sqrt : ℝ) + 1 ≤ d := by
      have : m.sqrt + 1 ≤ d := by omega
      exact_mod_cast this
    refine isResidue_inexact ?_ ?_ (by simp) (by simp) (fun _ => ?_)
    · rw [Real.lt_sqrt hr, hsq]
      nlinarith
    · rw [Real.sqrt_lt' (by positivity)]
      have : (m : ℝ) < ((m.sqrt + 1) * (m.sqrt + 1) : ℕ) := by exact_mod_cast h₂
      push_cast at this
      nlinarith
    · rw [Real.lt_sqrt (by positivity), hsq]
      nlinarith

theorem half_log_le_log_sqrt {x : ℝ} (hx : 0 < x) : Int.log 2 x / 2 ≤ Int.log 2 √x := by
  rw [← Int.zpow_le_iff_le_log (by norm_num) (Real.sqrt_pos.mpr hx), Real.le_sqrt' (by positivity)]
  calc (((2 : ℕ) : ℝ) ^ (Int.log 2 x / 2)) ^ 2 = ((2 : ℕ) : ℝ) ^ (Int.log 2 x / 2 * 2) := by
        rw [zpow_mul]
        norm_cast
    _ ≤ ((2 : ℕ) : ℝ) ^ Int.log 2 x := zpow_le_zpow_right₀ (by norm_num) (by omega)
    _ ≤ x := Int.zpow_log_le_self (by norm_num) hx

theorem isNearest_sqrt {x : Float} (hx : x.isFinite = true) (h0 : 0 ≤ value x) :
    IsNearest x.sqrt √(value x) := by
  change IsNearest ⟨Float.Model.pack (UnpackedFloat.sqrt Format.binary64 x.toModel.unpack)⟩ _
  rcases unpack_of_isFinite hx with ⟨s, h₁⟩ | ⟨s, m, e, hm, h₁⟩ <;> rw [h₁]
  · rw [value_of_unpack_zero h₁, Real.sqrt_zero]
    exact isNearest_pack_zero s
  cases s with
  | negative =>
    rw [value_of_unpack_finite h₁, signed] at h0
    have : (0 : ℝ) < m * 2 ^ e := by positivity
    linarith
  | positive =>
    set D := min (e.ediv 2) (Format.binary64.targetExponent ((totalExponent m e + 1).ediv 2)) with hD
    have ht : Format.binary64.targetExponent ((totalExponent m e + 1).ediv 2) =
        max (((m.log2 : ℤ) + 1 + e + 1) / 2 - 53) (-1074) := rfl
    have he : e.ediv 2 = e / 2 := rfl
    have hpos : 0 < m <<< (e - 2 * D).toNat := Nat.shiftLeft_pos_iff.mpr hm
    have hsqrt : √((m <<< (e - 2 * D).toNat : ℕ) : ℝ) * 2 ^ D = √((m : ℝ) * 2 ^ e) := by
      have hk : ((e - 2 * D).toNat : ℤ) = e - 2 * D := by omega
      have hDD : (2 : ℝ) ^ D = √(2 ^ (2 * D)) := by
        rw [two_mul, zpow_add₀ (by norm_num), Real.sqrt_mul_self (by positivity)]
      rw [hDD, ← Real.sqrt_mul (by positivity), Nat.shiftLeft_eq]
      push_cast
      rw [← zpow_natCast, hk, mul_assoc, ← zpow_add₀ (by norm_num), sub_add_cancel]
    have hplace : D ≤ placeExponent (√((m <<< (e - 2 * D).toNat : ℕ) : ℝ) * 2 ^ D) := by
      have hlog := half_log_le_log_sqrt (x := m * 2 ^ e) (by positivity)
      rw [log_mul_two_zpow (Nat.floor_natCast m) hm] at hlog
      rw [hsqrt, placeExponent]
      unfold leastExponent
      omega
    obtain ⟨hd, hv⟩ := roundWithAccuracy_pack .positive (isResidue_sqrt _)
      (Real.sqrt_pos.mpr (by exact_mod_cast hpos)) hplace
    refine ⟨hd, hv.trans ?_⟩
    rw [hsqrt, value_of_unpack_finite h₁, signed, signed, rounded_of_nonneg (Real.sqrt_nonneg _)]

theorem isNearest_toFloat (n : UInt64) : IsNearest n.toFloat n.toNat :=
  (isNearest_normalize n.toNat 0).of_eq (by simp)

theorem rounded_natCast {n : ℕ} (h : n < 2 ^ 53) : rounded n = n := by
  have hl : (n : ℝ) * 2 ^ (0 : ℤ) ≤ limit := (finite_lt_limit h (by norm_num)).le
  simpa using rounded_eq_self h (by decide) hl

/-- Whole numbers with 53 digits, and the next one, are not rounded. -/
theorem rounded_natCast_of_le {n : ℕ} (h : n ≤ 2 ^ 53) : rounded n = n := by
  have hn : (n : ℝ) ≤ 2 ^ 53 := by exact_mod_cast h
  have hl : (n : ℝ) * 2 ^ (0 : ℤ) ≤ limit := by
    rw [zpow_zero, mul_one]
    exact hn.trans (pow_le_pow_right₀ (by norm_num) (by norm_num))
  simpa using rounded_eq_self_of_le h (by decide) hl

/-- Counts below the 53 digits of a significand are exact. -/
theorem isNearest_natCast {n : ℕ} (h : n < 2 ^ 53) : IsNearest (Float.ofNat n) n := by
  have hu : n.toUInt64.toNat = n := by
    change n % 2 ^ 64 = n
    omega
  have hn : Float.ofNat n = n.toUInt64.toFloat * Float.ofBits 0x3FF0000000000000 := by
    change Float.ofScientific n false 0 = _
    rw [Float.ofScientific, dif_pos ⟨h, by norm_num⟩]
    rfl
  have h₁ := isNearest_toFloat n.toUInt64
  have hv : value n.toUInt64.toFloat = n := by rw [h₁.2, hu, rounded_natCast h]
  have hone : (Float.ofBits 0x3FF0000000000000).toModel.unpack =
      .finite .positive (2 ^ 52) (-52) (by norm_num) := by rfl
  have hv1 : value (Float.ofBits 0x3FF0000000000000) = 1 := by
    rw [value_of_unpack_positive hone]
    norm_num
  have hl : |value n.toUInt64.toFloat| < limit := by
    rw [hv, abs_of_nonneg (Nat.cast_nonneg n)]
    simpa using finite_lt_limit (e := 0) h (by norm_num)
  rw [hn]
  refine (isNearest_mul ((isFinite_iff _).mpr ⟨h₁.1, hl⟩) rfl).of_eq ?_
  rw [hv, hv1, mul_one]

theorem value_natCast {n : ℕ} (h : n < 2 ^ 53) : value (Float.ofNat n) = n := by
  rw [(isNearest_natCast h).2, rounded_natCast h]

theorem isFinite_natCast {n : ℕ} (h : n < 2 ^ 53) : (Float.ofNat n).isFinite = true := by
  refine (isFinite_iff _).mpr ⟨(isNearest_natCast h).1, ?_⟩
  rw [value_natCast h, abs_of_nonneg (Nat.cast_nonneg n)]
  simpa using finite_lt_limit (e := 0) h (by norm_num)

theorem isNearest_zero : IsNearest 0 0 := (isNearest_natCast (n := 0) (by norm_num)).of_eq (by simp)

theorem isNearest_one : IsNearest 1 1 := (isNearest_natCast (n := 1) (by norm_num)).of_eq (by simp)

@[simp] theorem value_zero : value 0 = 0 := by rw [isNearest_zero.2, rounded_zero]

@[simp] theorem value_one : value 1 = 1 := by
  rw [isNearest_one.2]
  exact_mod_cast rounded_natCast (n := 1) (by norm_num)

@[simp] theorem value_ten : value 10.0 = 10 := by
  have h : (10.0 : Float).toModel.unpack =
      .finite .positive (5 * 2 ^ 50) (-49) (by norm_num) := by rfl
  rw [value_of_unpack_positive h]
  norm_num

theorem value_epsilon : value Scalar.epsilon = 4835703278458517 / 2 ^ 82 := by
  have h : (Scalar.epsilon : Float).toModel.unpack =
      .finite .positive 4835703278458517 (-82) (by norm_num) := by rfl
  rw [value_of_unpack_positive h, zpow_neg]
  norm_cast

theorem epsilon_pos : 0 < value Scalar.epsilon := by
  rw [value_epsilon]
  positivity

theorem epsilon_lt : value Scalar.epsilon < 2 ^ (-29 : ℤ) := by
  rw [value_epsilon, zpow_neg]
  norm_num

theorem epsilon_lt_one : value Scalar.epsilon < 1 := by
  rw [value_epsilon]
  norm_num

theorem value_largest : value largest = limit - 2 ^ (971 : ℤ) := by
  have h : largest.toModel.unpack = .finite .positive (2 ^ 53 - 1) 971 (by norm_num) := by rfl
  rw [value_of_unpack_positive h, limit_eq]
  push_cast
  ring

/-- Infinite and undefined terms are not made finite by a sum. -/
theorem isFinite_of_add {x y : Float} (h : (x + y).isFinite = true) :
    x.isFinite = true ∧ y.isFinite = true := by
  change (Float.Model.pack (UnpackedFloat.add Format.binary64 x.toModel.unpack
    y.toModel.unpack)).unpack.isFinite = true at h
  change x.toModel.unpack.isFinite = true ∧ y.toModel.unpack.isFinite = true
  cases hx : x.toModel.unpack <;> cases hy : y.toModel.unpack <;>
    simp only [hx, hy, UnpackedFloat.add] at h <;> try split_ifs at h
  all_goals simp_all [UnpackedFloat.isFinite]

/-- Nor by a difference. -/
theorem isFinite_of_sub {x y : Float} (h : (x - y).isFinite = true) :
    x.isFinite = true ∧ y.isFinite = true := by
  change (Float.Model.pack (UnpackedFloat.sub Format.binary64 x.toModel.unpack
    y.toModel.unpack)).unpack.isFinite = true at h
  change x.toModel.unpack.isFinite = true ∧ y.toModel.unpack.isFinite = true
  cases hx : x.toModel.unpack <;> cases hy : y.toModel.unpack <;>
    simp only [hx, hy, UnpackedFloat.sub] at h <;> try split_ifs at h
  all_goals simp_all [UnpackedFloat.isFinite]

/-- An operation that hands undefined operands on has defined operands when its result is defined. -/
theorem defined_of_pack (op : UnpackedFloat → UnpackedFloat → UnpackedFloat)
    (hl : ∀ v, op .notANumber v = .notANumber) (hr : ∀ u, op u .notANumber = .notANumber)
    {x y : Float} (h : Defined ⟨Float.Model.pack (op x.toModel.unpack y.toModel.unpack)⟩) :
    Defined x ∧ Defined y := by
  constructor
  · intro hx
    rw [hx, hl] at h
    exact h rfl
  · intro hy
    rw [hy, hr] at h
    exact h rfl

theorem defined_of_add {x y : Float} (h : Defined (x + y)) : Defined x ∧ Defined y :=
  defined_of_pack (UnpackedFloat.add Format.binary64) (fun v => by cases v <;> rfl)
    (fun u => by cases u <;> rfl) h

theorem defined_of_sub {x y : Float} (h : Defined (x - y)) : Defined x ∧ Defined y :=
  defined_of_pack (UnpackedFloat.sub Format.binary64) (fun v => by cases v <;> rfl)
    (fun u => by cases u <;> rfl) h

theorem defined_of_mul {x y : Float} (h : Defined (x * y)) : Defined x ∧ Defined y :=
  defined_of_pack (UnpackedFloat.mul Format.binary64) (fun v => by cases v <;> rfl)
    (fun u => by cases u <;> rfl) h

theorem defined_of_div {x y : Float} (h : Defined (x / y)) : Defined x ∧ Defined y :=
  defined_of_pack (UnpackedFloat.div Format.binary64) (fun v => by cases v <;> rfl)
    (fun u => by cases u <;> rfl) h

theorem defined_of_sqrt {x : Float} (h : Defined x.sqrt) : Defined x := by
  intro hn
  apply h
  change (Float.Model.pack (UnpackedFloat.sqrt Format.binary64 x.toModel.unpack)).unpack = _
  rw [hn]
  rfl

/-- Infinity divided by itself is undefined. -/
theorem not_defined_div_of_infinity {x y : Float} (hx : x.toModel.unpack = .infinity .positive)
    (hy : y.toModel.unpack = .infinity .positive) : ¬Defined (x / y) := by
  unfold Defined
  change ¬(Float.Model.pack (UnpackedFloat.div Format.binary64 x.toModel.unpack
    y.toModel.unpack)).unpack ≠ _
  rw [hx, hy, not_not]
  rfl

theorem rounded_of_limit_le {x : ℝ} (h : limit ≤ x) : rounded x = limit := by
  refine le_antisymm ((le_abs_self _).trans (abs_rounded_le_limit x)) ?_
  rw [← rounded_limit]
  exact rounded_mono h

/-- A nonnegative double is finite, or positive infinity. -/
theorem isFinite_or_infinity {x : Float} (hd : Defined x) (h : 0 ≤ value x) :
    x.isFinite = true ∨ x.toModel.unpack = .infinity .positive := by
  cases hu : x.toModel.unpack with
  | notANumber => exact absurd hu hd
  | infinity s =>
    cases s with
    | negative =>
      rw [value, hu, unpackedValue_infinity, signed] at h
      linarith [limit_pos]
    | positive => exact Or.inr rfl
  | zero s => exact Or.inl (by change x.toModel.unpack.isFinite = true; rw [hu]; rfl)
  | finite s m e hm => exact Or.inl (by change x.toModel.unpack.isFinite = true; rw [hu]; rfl)

/-- Infinity stays infinite when a finite double is taken away. -/
theorem unpack_sub_of_infinity {x y : Float} (hx : x.toModel.unpack = .infinity .positive)
    (hy : y.isFinite = true) : (x - y).toModel.unpack = .infinity .positive := by
  change (Float.Model.pack (UnpackedFloat.sub Format.binary64 x.toModel.unpack
    y.toModel.unpack)).unpack = _
  rw [hx]
  rcases unpack_of_isFinite hy with ⟨s, hs⟩ | ⟨s, m, e, hm, hs⟩ <;> rw [hs] <;>
    exact unpack_pack_infinity .positive

/-- Sums of nonnegative doubles, infinite or not. -/
theorem isNearest_add_of_nonneg {x y : Float} (hx : Defined x) (hy : Defined y)
    (h₁ : 0 ≤ value x) (h₂ : 0 ≤ value y) : IsNearest (x + y) (value x + value y) := by
  have inf {u : UnpackedFloat} {r : ℝ} (hu : u = .infinity .positive) (hr : limit ≤ r) :
      IsNearest ⟨Float.Model.pack u⟩ r := by
    subst hu
    refine ⟨by simp [Defined], ?_⟩
    rw [rounded_of_limit_le hr]
    simp [value]
  have hv {z : Float} (hz : z.toModel.unpack = .infinity .positive) : value z = limit := by
    rw [value, hz]
    rfl
  rcases isFinite_or_infinity hx h₁ with hxf | hxi
  · rcases isFinite_or_infinity hy h₂ with hyf | hyi
    · exact isNearest_add hxf hyf
    · refine inf ?_ (by rw [hv hyi]; linarith)
      rw [hyi]
      rcases unpack_of_isFinite hxf with ⟨s, hs⟩ | ⟨s, m, e, hm, hs⟩ <;> rw [hs] <;> rfl
  · refine inf ?_ (by rw [hv hxi]; linarith)
    rw [hxi]
    rcases isFinite_or_infinity hy h₂ with hyf | hyi
    · rcases unpack_of_isFinite hyf with ⟨s, hs⟩ | ⟨s, m, e, hm, hs⟩ <;> rw [hs] <;> rfl
    · rw [hyi]
      rfl

/-- A finite multiple of zero is zero, of one sign or the other. -/
theorem unpack_zero_mul {x y : Float} {s : Sign} (hx : x.toModel.unpack = .zero s)
    (hy : y.isFinite = true) : ∃ t, (x * y).toModel.unpack = .zero t := by
  change ∃ t, (Float.Model.pack (UnpackedFloat.mul Format.binary64 x.toModel.unpack
    y.toModel.unpack)).unpack = .zero t
  rw [hx]
  rcases unpack_of_isFinite hy with ⟨t, ht⟩ | ⟨t, m, e, hm, ht⟩ <;> rw [ht] <;>
    exact ⟨_, unpack_pack_zero _⟩

/-- A sum that starts at zero does not become a negative zero. -/
theorem zero_add_of_unpack_zero {x : Float} {s : Sign} (h : x.toModel.unpack = .zero s) :
    0 + x = 0 := by
  change (⟨Float.Model.pack (UnpackedFloat.add Format.binary64 (0 : Float).toModel.unpack
    x.toModel.unpack)⟩ : Float) = 0
  rw [h]
  cases s <;> rfl

end TextIntent.Binary64
