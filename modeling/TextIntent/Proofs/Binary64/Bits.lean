import TextIntent.Proofs.Binary64.Arithmetic

/-! The parts of a double against its bits. `parts_eq` says that the parts are those that the double
unpacks to, and a finite double is known by its parts. -/
namespace TextIntent.Binary64

open Float.Model (Format UnpackedFloat)
open Float.Model.UnpackedFloat

/-- The sign as it stands in the parts of a double. -/
def isNegative : Sign → Bool
  | .negative => true
  | .positive => false

@[simp] theorem isNegative_neg (s : Sign) : isNegative (-s) = !isNegative s := by cases s <;> rfl

theorem toNat_unpackExponent (b : BitVec 64) :
    (@unpackExponent Format.binary64 b).toNat = b.toNat >>> 52 % 2048 := by
  rw [unpackExponent_def]
  exact BitVec.extractLsb'_toNat 52 11 b

theorem toNat_unpackMantissa (b : BitVec 64) :
    (@unpackMantissa Format.binary64 b).toNat = b.toNat % 2 ^ 52 := by
  rw [unpackMantissa_def]
  exact BitVec.extractLsb'_toNat 0 52 b

theorem isNegative_unpackSign (b : BitVec 64) :
    isNegative (Sign.ofBitVec (@unpackSign Format.binary64 b)) = decide (2 ^ 63 ≤ b.toNat) := by
  have hb : (@unpackSign Format.binary64 b).toNat = b.toNat >>> 63 % 2 := by
    rw [unpackSign_def]
    exact BitVec.extractLsb'_toNat 63 1 b
  have hlt : b.toNat < 2 ^ 64 := b.isLt
  rw [Nat.shiftRight_eq_div_pow] at hb
  have hz : @unpackSign Format.binary64 b = 0#1 ↔ ¬2 ^ 63 ≤ b.toNat := by
    rw [← BitVec.toNat_inj, hb]
    change _ = 0 ↔ _
    omega
  unfold Sign.ofBitVec
  split_ifs with h
  · rw [decide_eq_false (hz.mp h)]
    rfl
  · rw [decide_eq_true (not_not.mp fun hn => h (hz.mpr hn))]
    rfl

/-- The parts of an unpacked double. -/
def unpackedParts : UnpackedFloat → Parts
  | .notANumber => .undefined
  | .infinity s => .infinite (isNegative s)
  | .zero s => .finite (isNegative s) 0 leastExponent
  | .finite s m e _ => .finite (isNegative s) m e

/-- The parts of a double are those that it unpacks to. -/
theorem parts_eq (x : Float) : parts x = unpackedParts x.toModel.unpack := by
  have h₁ : (@unpackExponent Format.binary64 x.toBits.toBitVec).toNat =
      x.toBits.toNat >>> 52 % 2048 := toNat_unpackExponent x.toBits.toBitVec
  have h₂ : (@unpackMantissa Format.binary64 x.toBits.toBitVec).toNat =
      x.toBits.toNat % leadingBit := toNat_unpackMantissa x.toBits.toBitVec
  have h₃ : decide (1 <<< 63 ≤ x.toBits.toNat) =
      isNegative (Sign.ofBitVec (@unpackSign Format.binary64 x.toBits.toBitVec)) :=
    (isNegative_unpackSign x.toBits.toBitVec).symm
  have e₁ : @unpackExponent Format.binary64 x.toBits.toBitVec = -1#11 ↔
      x.toBits.toNat >>> 52 % 2048 = 2047 := by
    rw [← BitVec.toNat_inj, h₁]
    rfl
  have e₂ : @unpackExponent Format.binary64 x.toBits.toBitVec = 0#11 ↔
      x.toBits.toNat >>> 52 % 2048 = 0 := by
    rw [← BitVec.toNat_inj, h₁]
    rfl
  have e₃ : @unpackMantissa Format.binary64 x.toBits.toBitVec = 0#52 ↔
      x.toBits.toNat % leadingBit = 0 := by
    rw [← BitVec.toNat_inj, h₂]
    rfl
  have hb : ((Format.binary64.exponentBias : ℤ) + Format.binary64.mantissaBitsWithoutImplicit) =
      1075 := rfl
  change parts x = unpackedParts (UnpackedFloat.unpack Format.binary64 x.toBits.toBitVec)
  unfold parts UnpackedFloat.unpack
  simp only [e₁, e₂, e₃, h₁, h₂, h₃, hb, toNat_leadingBit_append]
  split_ifs with c₁ c₂ c₃ c₄
  · rfl
  · rfl
  · rw [c₄]
    rfl
  · rw [c₃]
    rfl
  · rfl

/-- The bits of a finite double without its sign: the leading bit of a normal significand counts as one
in the field of the exponent. -/
def magnitudeBits (m : ℕ) (e : ℤ) : ℕ := (e - leastExponent).toNat * leadingBit + m

theorem magnitudeBits_lt {m : ℕ} {e : ℤ} (h : InRange m e) (he : e ≤ 971) :
    magnitudeBits m e < infinityBits := by
  have hlt := h.lt
  have hle := h.le
  unfold magnitudeBits infinityBits
  change _ * 2 ^ 52 + m < _
  unfold leastExponent at *
  omega

/-- The parts of a finite double are in range and make up its bits. -/
theorem toBits_of_parts {x : Float} {s : Bool} {m : ℕ} {e : ℤ} (h : parts x = .finite s m e) :
    InRange m e ∧ e ≤ 971 ∧ x.toBits.toNat = (if s then 2 ^ 63 else 0) + magnitudeBits m e := by
  have hlt : x.toBits.toNat < 2 ^ 64 := x.toBits.toNat_lt
  have hl : leadingBit = 2 ^ 52 := rfl
  have hs : 1 <<< 63 = 2 ^ 63 := rfl
  have hd : (if decide (2 ^ 63 ≤ x.toBits.toNat) = true then 2 ^ 63 else 0) =
      x.toBits.toNat / 2 ^ 63 * 2 ^ 63 := by
    by_cases hb : 2 ^ 63 ≤ x.toBits.toNat
    · rw [decide_eq_true hb, if_pos rfl]
      omega
    · rw [decide_eq_false hb, if_neg Bool.false_ne_true]
      omega
  unfold parts at h
  unfold magnitudeBits
  simp only [hl, hs, Nat.shiftRight_eq_div_pow] at h ⊢
  split_ifs at h with h₁ h₂ h₃
  · obtain ⟨rfl, rfl, rfl⟩ := Parts.finite.inj h
    refine ⟨⟨by omega, le_rfl, Or.inr rfl⟩, by decide, ?_⟩
    rw [hd, sub_self]
    omega
  · obtain ⟨rfl, rfl, rfl⟩ := Parts.finite.inj h
    unfold leastExponent
    refine ⟨⟨by omega, by unfold leastExponent; omega, Or.inl (by omega)⟩, by omega, ?_⟩
    rw [hd]
    omega

/-- A finite double is known by its parts. -/
theorem eq_of_parts {x y : Float} {s : Bool} {m : ℕ} {e : ℤ} (hx : parts x = .finite s m e)
    (hy : parts y = .finite s m e) : x = y := by
  have hb : x.toBits = y.toBits := by
    rw [← UInt64.toNat_inj, (toBits_of_parts hx).2.2, (toBits_of_parts hy).2.2]
  rw [← Float.ofBits_toBits x, hb, Float.ofBits_toBits]

theorem isFinite_iff_parts (x : Float) :
    x.isFinite = true ↔ ∃ s m e, parts x = .finite s m e := by
  rw [parts_eq]
  change x.toModel.unpack.isFinite = true ↔ _
  cases x.toModel.unpack <;> simp [UnpackedFloat.isFinite, unpackedParts]

theorem parts_neg {x : Float} {s : Bool} {m : ℕ} {e : ℤ} (h : parts x = .finite s m e) :
    parts (-x) = .finite (!s) m e := by
  rw [parts_eq] at h
  rw [parts_eq]
  change unpackedParts (Float.Model.pack x.toModel.unpack.neg).unpack = _
  cases hu : x.toModel.unpack with
  | notANumber => simp [hu, unpackedParts] at h
  | infinity t => simp [hu, unpackedParts] at h
  | zero t =>
    rw [hu] at h
    obtain ⟨rfl, rfl, rfl⟩ := Parts.finite.inj h
    rw [UnpackedFloat.neg, unpack_pack_zero, unpackedParts, isNegative_neg]
  | finite t n f hn =>
    rw [hu] at h
    obtain ⟨rfl, rfl, rfl⟩ := Parts.finite.inj h
    obtain ⟨hr, hf⟩ := inRange_of_unpack hu
    rw [UnpackedFloat.neg, unpack_pack _ hn hr, if_pos hf, unpackedParts, isNegative_neg]

theorem parts_withSign {x : Float} {m : ℕ} {e : ℤ} (s : Bool) (h : parts x = .finite false m e) :
    parts (withSign s x) = .finite s m e := by
  cases s with
  | false => exact h
  | true => exact parts_neg h

/-- Bits that are not those of infinity or an undefined double are kept. -/
theorem toBits_ofBits {b : UInt64} (h : b.toNat < infinityBits) : (Float.ofBits b).toBits = b := by
  have hv : Format.binary64.Valid b.toBitVec := by
    refine ⟨fun he => ?_⟩
    have hn := congrArg BitVec.toNat he
    rw [toNat_unpackExponent, Nat.shiftRight_eq_div_pow] at hn
    change b.toNat / 2 ^ 52 % 2048 = 2047 at hn
    unfold infinityBits at h
    omega
  change (⟨UnpackedFloat.pack Format.binary64 (UnpackedFloat.unpack Format.binary64 b.toBitVec)⟩ :
    UInt64) = b
  rw [pack_unpack_of_valid hv]

theorem parts_ofBits {m : ℕ} {e : ℤ} (h : InRange m e) (he : e ≤ 971) :
    parts (Float.ofBits (UInt64.ofNat (magnitudeBits m e))) = .finite false m e := by
  have hlt := magnitudeBits_lt h he
  have hn : (UInt64.ofNat (magnitudeBits m e)).toNat = magnitudeBits m e :=
    UInt64.toNat_ofNat_of_lt (hlt.trans (by decide))
  have hl : leadingBit = 2 ^ 52 := rfl
  have hd : decide (1 <<< 63 ≤ magnitudeBits m e) = false :=
    decide_eq_false (not_le.mpr (hlt.trans (by decide)))
  have hr := h.lt
  have hle := h.le
  have hf := h.full
  unfold parts
  rw [toBits_ofBits (hn.symm ▸ hlt), hn]
  simp only [hd]
  simp only [magnitudeBits, hl, Nat.shiftRight_eq_div_pow]
  unfold leastExponent at *
  split_ifs with h₁ h₂ h₃
  · omega
  · omega
  · congr 1 <;> omega
  · congr 1 <;> omega

end TextIntent.Binary64
