import TextIntent.Numeric.Double
import TextIntent.Proofs.Binary64.Nearest

/-! The real number that a double stands for. A double is packed into a sign, eleven bits of exponent
and 52 of significand; `unpack_pack` says what is left of a rounded number after packing, and
`inRange_of_unpack` which numbers there are. Infinity has the value `limit`, so that the order of
doubles is the order of their values. -/
namespace TextIntent.Binary64

open Float.Model (Format UnpackedFloat)
open Float.Model.UnpackedFloat

/-- The leading bit of a normal significand is not stored. -/
theorem toNat_leadingBit_append (m : BitVec 52) : (1#1 ++ m).toNat = 2 ^ 52 + m.toNat := by
  rw [BitVec.toNat_append, ← Nat.shiftLeft_add_eq_or_of_lt m.isLt]
  rfl

/-- A double read field by field. -/
theorem unpack_packComponents (s : Sign) {k f : ℕ} (hk : k < 2048) (hf : f < 2 ^ 52) :
    UnpackedFloat.unpack Format.binary64
        (packComponents Format.binary64 s (BitVec.ofNat 11 k) (BitVec.ofNat 52 f)) =
      if k = 2047 then (if f = 0 then .infinity s else .notANumber)
      else if k = 0 then
        if h : f = 0 then .zero s else .finite s f (-1074) (Nat.pos_of_ne_zero h)
      else .finite s (2 ^ 52 + f) (k - 1075) (by omega) := by
  have h₁ : (BitVec.ofNat 11 k).toNat = k := by rw [BitVec.toNat_ofNat, Nat.mod_eq_of_lt hk]
  have h₂ : (BitVec.ofNat 52 f).toNat = f := by rw [BitVec.toNat_ofNat, Nat.mod_eq_of_lt hf]
  have e₁ : BitVec.ofNat 11 k = -1#11 ↔ k = 2047 := by
    rw [← BitVec.toNat_inj, h₁]
    rfl
  have e₂ : BitVec.ofNat 11 k = 0#11 ↔ k = 0 := by
    rw [← BitVec.toNat_inj, h₁]
    rfl
  have e₃ : BitVec.ofNat 52 f = 0#52 ↔ f = 0 := by
    rw [← BitVec.toNat_inj, h₂]
    rfl
  have hb : ((Format.binary64.exponentBias : ℕ) : ℤ) = 1023 := rfl
  unfold UnpackedFloat.unpack
  simp only [unpackMantissa_packComponents, unpackExponent_packComponents,
    unpackSign_packComponents, Sign.ofBitVec_toBitVec, toNat_leadingBit_append, h₁, h₂, e₁, e₂, e₃, hb]
  split_ifs with h₃ h₄ h₅ h₆
  · rfl
  · rfl
  · rfl
  · subst h₅
    congr 1
  · congr 1

/-- Significand and exponent are those of a rounded number: 53 digits, or fewer at the least
exponent. -/
structure InRange (m : ℕ) (e : ℤ) : Prop where
  lt : m < 2 ^ 53
  le : leastExponent ≤ e
  full : 2 ^ 52 ≤ m ∨ e = leastExponent

/-- Packing keeps a rounded number, unless its exponent is too large. -/
theorem unpack_pack (s : Sign) {m : ℕ} {e : ℤ} (hm : 0 < m) (h : InRange m e) :
    (Float.Model.pack (.finite s m e hm)).unpack =
      if e ≤ 971 then .finite s m e hm else .infinity s := by
  have hle : -1074 ≤ e := h.le
  have hlt := h.lt
  have hb : (e + (Format.binary64.exponentBias : ℤ) +
      (Format.binary64.mantissaBitsWithoutImplicit : ℤ)).toNat = (e + 1075).toNat := by
    change (e + 1023 + 52).toNat = _
    omega
  change UnpackedFloat.unpack Format.binary64 (UnpackedFloat.pack Format.binary64 _) = _
  simp only [UnpackedFloat.pack, hb]
  split_ifs with h₁ h₂ h₃ h₄ h₅
  · change 2048 ≤ _ at h₁
    omega
  · cases s <;> rfl
  · change m.log2 + 1 = 53 at h₃
    have hl := Nat.log2_self_le hm.ne'
    rw [show m.log2 = 52 by omega] at hl
    obtain ⟨f, rfl⟩ := Nat.exists_eq_add_of_le hl
    have hf : BitVec.ofNat 52 (2 ^ 52 + f) = BitVec.ofNat 52 f := by
      apply BitVec.eq_of_toNat_eq
      simp only [BitVec.toNat_ofNat]
      omega
    rw [hf, unpack_packComponents s (by omega) (by omega), if_neg (by omega), if_neg (by omega)]
    congr 1
    omega
  · change ¬2048 ≤ _ at h₁
    omega
  · change ¬m.log2 + 1 = 53 at h₃
    have hs : m < 2 ^ 52 := by
      rw [← Nat.log2_lt hm.ne']
      have := (Nat.log2_lt hm.ne').mpr hlt
      omega
    have he : e = leastExponent := h.full.resolve_left (by omega)
    subst he
    change UnpackedFloat.unpack Format.binary64
      (packComponents Format.binary64 s (BitVec.ofNat 11 0) (BitVec.ofNat 52 m)) = _
    rw [unpack_packComponents s (by omega) hs, if_neg (by omega), if_pos rfl, dif_neg hm.ne']
    rfl
  · change ¬2048 ≤ _ at h₁
    omega

@[simp] theorem unpack_pack_zero (s : Sign) :
    (Float.Model.pack (.zero s)).unpack = .zero s := by cases s <;> rfl

@[simp] theorem unpack_pack_infinity (s : Sign) :
    (Float.Model.pack (.infinity s)).unpack = .infinity s := by cases s <;> rfl

@[simp] theorem unpack_pack_notANumber : (Float.Model.pack .notANumber).unpack = .notANumber := rfl

/-- Every finite double is a rounded number, and its exponent is not too large. -/
theorem inRange_of_unpack {x : Float.Model} {s : Sign} {m : ℕ} {e : ℤ} {hm : 0 < m}
    (h : x.unpack = .finite s m e hm) : InRange m e ∧ e ≤ 971 := by
  have hk := (@unpackExponent Format.binary64 x.toBits.toBitVec).isLt
  have hf := (@unpackMantissa Format.binary64 x.toBits.toBitVec).isLt
  change _ < 2 ^ 11 at hk
  change _ < 2 ^ 52 at hf
  unfold Float.Model.unpack UnpackedFloat.unpack at h
  simp only at h
  split_ifs at h with h₁ h₂ h₃ h₄
  · cases h
    rw [h₃]
    refine ⟨⟨by omega, by decide, Or.inr (by rfl)⟩, by decide⟩
  · cases h
    rw [toNat_leadingBit_append]
    have n₁ : (@unpackExponent Format.binary64 x.toBits.toBitVec).toNat ≠ 2047 :=
      fun hn => h₁ (BitVec.eq_of_toNat_eq hn)
    have n₂ : (@unpackExponent Format.binary64 x.toBits.toBitVec).toNat ≠ 0 :=
      fun hn => h₃ (BitVec.eq_of_toNat_eq hn)
    change InRange _ (_ - ((1023 : ℤ) + 52)) ∧ _ - ((1023 : ℤ) + 52) ≤ 971
    refine ⟨⟨by omega, ?_, Or.inl (by omega)⟩, by omega⟩
    unfold leastExponent
    omega

/-- A real number with a sign put before it. -/
def signed (s : Sign) (x : ℝ) : ℝ :=
  match s with
  | .negative => -x
  | .positive => x

/-- The number an unpacked double stands for. -/
noncomputable def unpackedValue : UnpackedFloat → ℝ
  | .notANumber => 0
  | .infinity s => signed s limit
  | .zero _ => 0
  | .finite s m e _ => signed s (m * weight e)

/-- The number a double stands for: `limit` for infinity, and zero for an undefined double. -/
noncomputable def value (x : Float) : ℝ := unpackedValue x.toModel.unpack

/-- The double is a number or infinite. -/
def Defined (x : Float) : Prop := x.toModel.unpack ≠ .notANumber

@[simp] theorem unpackedValue_notANumber : unpackedValue .notANumber = 0 := rfl

@[simp] theorem unpackedValue_infinity (s : Sign) :
    unpackedValue (.infinity s) = signed s limit := rfl

@[simp] theorem unpackedValue_zero (s : Sign) : unpackedValue (.zero s) = 0 := rfl

@[simp] theorem unpackedValue_finite (s : Sign) (m : ℕ) (e : ℤ) (hm : 0 < m) :
    unpackedValue (.finite s m e hm) = signed s (m * 2 ^ e) := rfl

@[simp] theorem signed_positive (x : ℝ) : signed .positive x = x := rfl

@[simp] theorem abs_signed (s : Sign) (x : ℝ) : |signed s x| = |x| := by
  cases s <;> simp [signed]

theorem signed_neg (s : Sign) (x : ℝ) : signed (-s) x = -signed s x := by
  cases s
  · exact (neg_neg x).symm
  · rfl

theorem limit_eq : limit = 2 ^ 53 * 2 ^ (971 : ℤ) := by
  rw [limit, ← zpow_natCast, ← zpow_natCast, ← zpow_add₀ (by norm_num)]
  norm_num

/-- Finite doubles have values below the limit. -/
theorem finite_lt_limit {m : ℕ} {e : ℤ} (hm : m < 2 ^ 53) (he : e ≤ 971) :
    (m : ℝ) * 2 ^ e < limit := by
  have h₁ : (m : ℝ) < 2 ^ 53 := by exact_mod_cast hm
  have h₂ : (2 : ℝ) ^ e ≤ 2 ^ (971 : ℤ) := zpow_le_zpow_right₀ (by norm_num) he
  rw [limit_eq]
  exact mul_lt_mul h₁ h₂ (by positivity) (by positivity)

/-- Rounded numbers with a larger exponent do not lie below the limit. -/
theorem limit_le_of_inRange {m : ℕ} {e : ℤ} (h : InRange m e) (he : 971 < e) :
    limit ≤ (m : ℝ) * 2 ^ e := by
  have hf : 2 ^ 52 ≤ m := h.full.resolve_right (by unfold leastExponent; omega)
  have h₁ : (2 : ℝ) ^ 52 ≤ m := by exact_mod_cast hf
  have h₂ : (2 : ℝ) ^ (972 : ℤ) ≤ 2 ^ e := zpow_le_zpow_right₀ (by norm_num) (by omega)
  calc limit = 2 ^ 52 * 2 ^ (972 : ℤ) := by
        rw [limit_eq, show (972 : ℤ) = 971 + 1 by norm_num, zpow_add₀ (by norm_num)]
        ring
    _ ≤ m * 2 ^ e := mul_le_mul h₁ h₂ (by positivity) (by positivity)

/-- The value of a double is a rounded number. -/
theorem rounded_value (x : Float) : rounded (value x) = value x := by
  unfold value
  cases hu : x.toModel.unpack with
  | notANumber => simp
  | infinity s => cases s <;> simp [signed, rounded_limit]
  | zero s => simp
  | finite s m e hm =>
    obtain ⟨hr, he⟩ := inRange_of_unpack hu
    have hl := (finite_lt_limit hr.lt he).le
    cases s <;> simp [signed, rounded_eq_self hr.lt hr.le hl]

/-- The finite doubles are the defined ones with a value below the limit. -/
theorem isFinite_iff (x : Float) : x.isFinite = true ↔ Defined x ∧ |value x| < limit := by
  have hl := limit_pos
  unfold value Defined
  change x.toModel.unpack.isFinite = true ↔ _
  cases hu : x.toModel.unpack with
  | notANumber => simp [UnpackedFloat.isFinite]
  | infinity s => simp [UnpackedFloat.isFinite, abs_of_pos hl]
  | zero s => simp [UnpackedFloat.isFinite, hl]
  | finite s m e hm =>
    obtain ⟨hr, he⟩ := inRange_of_unpack hu
    have := finite_lt_limit hr.lt he
    simp only [UnpackedFloat.isFinite, unpackedValue_finite, abs_signed, true_iff]
    rw [abs_of_nonneg (by positivity)]
    exact ⟨by simp, this⟩

/-- The finite doubles stop short of the limit by one last place. -/
theorem abs_value_le_of_isFinite {x : Float} (h : x.isFinite = true) :
    |value x| ≤ limit - 2 ^ (971 : ℤ) := by
  change x.toModel.unpack.isFinite = true at h
  have hp : (0 : ℝ) < 2 ^ (971 : ℤ) := by positivity
  unfold value
  rw [limit_eq]
  cases hu : x.toModel.unpack with
  | notANumber => simp [hu, UnpackedFloat.isFinite] at h
  | infinity s => simp [hu, UnpackedFloat.isFinite] at h
  | zero s =>
    rw [unpackedValue_zero, abs_zero]
    generalize (2 : ℝ) ^ (971 : ℤ) = d at *
    linarith
  | finite s m e hm =>
    obtain ⟨hr, he⟩ := inRange_of_unpack hu
    have h₁ : (m : ℝ) + 1 ≤ 2 ^ 53 := by exact_mod_cast hr.lt
    have h₂ : (2 : ℝ) ^ e ≤ 2 ^ (971 : ℤ) := zpow_le_zpow_right₀ (by norm_num) he
    rw [unpackedValue_finite, abs_signed, abs_of_nonneg (by positivity)]
    generalize (2 : ℝ) ^ (971 : ℤ) = d at *
    calc (m : ℝ) * 2 ^ e ≤ m * d := mul_le_mul_of_nonneg_left h₂ (Nat.cast_nonneg m)
      _ ≤ (2 ^ 53 - 1) * d := mul_le_mul_of_nonneg_right (by linarith) hp.le
      _ = 2 ^ 53 * d - d := by ring

theorem Defined.of_isFinite {x : Float} (h : x.isFinite = true) : Defined x :=
  ((isFinite_iff x).mp h).1

/-- Packing a rounded number with sign gives the double with its value, or infinity. -/
theorem value_pack (s : Sign) {m : ℕ} {e : ℤ} (hm : 0 < m) (h : InRange m e) :
    Defined ⟨Float.Model.pack (.finite s m e hm)⟩ ∧
      value ⟨Float.Model.pack (.finite s m e hm)⟩ = signed s (min (m * 2 ^ e) limit) := by
  unfold Defined value
  simp only [unpack_pack s hm h]
  split_ifs with he
  · refine ⟨by simp, ?_⟩
    rw [unpackedValue_finite, min_eq_left (finite_lt_limit h.lt he).le]
  · refine ⟨by simp, ?_⟩
    rw [unpackedValue_infinity, min_eq_right (limit_le_of_inRange h (by omega))]

end TextIntent.Binary64
