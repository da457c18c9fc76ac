import TextIntent.Channel.Gate
import TextIntent.Config.Default
import TextIntent.Proofs.Binary64.Sums
import TextIntent.Proofs.Real.Scalar

/-! The noise on the filters. The bits of a register can be recovered one by one from those of its successor,
so no two registers have the same successor and none becomes zero. Its upper bits are a fraction below one, a
double without rounding, and so no component of a filter is further from its affinity than the jitter allows. -/
namespace TextIntent

open Scalar Binary64
open scoped Exact

namespace Jitter

section Register

/-- A word can be told from its exclusive-or with a word whose bits come from bits of lower rank. -/
theorem injective_xor_of_rank {w : ℕ} {f : BitVec w → BitVec w} (rank : ℕ → ℕ)
    (h : ∀ x y i, (∀ j, rank j < rank i → x.getLsbD j = y.getLsbD j) →
      (f x).getLsbD i = (f y).getLsbD i) : Function.Injective fun x => x ^^^ f x := by
  intro x y hxy
  have hbits : ∀ n i, rank i = n → x.getLsbD i = y.getLsbD i := by
    intro n
    induction n using Nat.strong_induction_on with
    | _ n ih =>
      rintro i rfl
      have hi := congrArg (fun z => z.getLsbD i) hxy
      have hlower := h x y i fun j hj => ih (rank j) hj j rfl
      simpa [hlower] using hi
  exact BitVec.eq_of_getLsbD_eq fun i _ => hbits (rank i) i rfl

/-- The lower bits come first. -/
theorem injective_xor_shiftLeft (w : ℕ) {k : ℕ} (hk : 0 < k) :
    Function.Injective fun x : BitVec w => x ^^^ (x <<< k) := by
  refine injective_xor_of_rank id fun x y i h => ?_
  simp only [BitVec.getLsbD_shiftLeft]
  by_cases hi : i < k
  · simp [hi]
  · rw [h (i - k) (by simp; omega)]

/-- The upper bits come first. -/
theorem injective_xor_shiftRight (w : ℕ) {k : ℕ} (hk : 0 < k) :
    Function.Injective fun x : BitVec w => x ^^^ (x >>> k) := by
  refine injective_xor_of_rank (w - ·) fun x y i h => ?_
  simp only [BitVec.getLsbD_ushiftRight]
  by_cases hi : k + i < w
  · exact h (k + i) (by omega)
  · rw [BitVec.getLsbD_of_ge _ _ (by omega), BitVec.getLsbD_of_ge _ _ (by omega)]

theorem toBitVec_step (x : UInt64) : (step x).toBitVec =
    let a := x.toBitVec ^^^ (x.toBitVec <<< 13)
    let b := a ^^^ (a >>> 7)
    b ^^^ (b <<< 17) := rfl

theorem step_injective : Function.Injective step := by
  intro x y h
  have hbits := congrArg UInt64.toBitVec h
  rw [toBitVec_step, toBitVec_step] at hbits
  apply UInt64.toBitVec_inj.mp
  apply injective_xor_shiftLeft 64 (k := 13) (by norm_num)
  apply injective_xor_shiftRight 64 (k := 7) (by norm_num)
  exact injective_xor_shiftLeft 64 (k := 17) (by norm_num) hbits

theorem step_ne_zero {x : UInt64} (h : x ≠ 0) : step x ≠ 0 := by
  have hzero : step 0 = 0 := by decide
  intro hx
  exact h (step_injective (hx.trans hzero.symm))

theorem seeded_ne_zero (seed : UInt64) : seeded seed ≠ 0 := by
  unfold seeded
  split_ifs with h
  · decide
  · exact h

/-- Only from zero could the register become zero, and no seed is taken as zero. -/
theorem state_ne_zero (seed : UInt64) (n : ℕ) : state seed n ≠ 0 := by
  induction n with
  | zero => exact seeded_ne_zero seed
  | succ n ih => exact step_ne_zero ih

end Register

section Fraction

theorem toNat_shiftRight_lt (x : UInt64) : (x >>> 11).toNat < 2 ^ 53 := by
  have hx := x.toNat_lt
  have hs : (x >>> 11).toNat = x.toNat >>> 11 := UInt64.toNat_shiftRight x 11
  rw [hs, Nat.shiftRight_eq_div_pow]
  omega

theorem fraction_eq (x : UInt64) : (fraction x : ℝ) = (x >>> 11).toNat * 2 ^ (-53 : ℤ) := by
  have hpow : (1 <<< 53 : ℕ) = 2 ^ 53 := by decide
  change ((x >>> 11).toNat : ℝ) / ((1 <<< 53 : ℕ) : ℝ) = _
  rw [hpow, div_eq_mul_inv, zpow_neg]
  norm_num

theorem fraction_mem_unit (x : UInt64) : 0 ≤ (fraction x : ℝ) ∧ (fraction x : ℝ) < 1 := by
  have hlt : ((x >>> 11).toNat : ℝ) < 2 ^ 53 := by exact_mod_cast toNat_shiftRight_lt x
  rw [fraction_eq, zpow_neg, ← div_eq_mul_inv]
  exact ⟨by positivity, (div_lt_one (by positivity)).mpr (by exact_mod_cast hlt)⟩

/-- Doubles have room for all bits of a fraction. -/
theorem value_fraction (x : UInt64) :
    Defined (fraction x : Float) ∧ value (fraction x : Float) = (fraction x : ℝ) := by
  have hlt := toNat_shiftRight_lt x
  have hpow : value (Float.ofNat (1 <<< 53)) = 2 ^ 53 := by
    have hu : (Float.ofNat (1 <<< 53)).toModel.unpack =
        .finite .positive (2 ^ 52) 1 (by norm_num) := by rfl
    rw [value_of_unpack_positive hu]
    norm_num
  have hq := isNearest_div (x := Float.ofNat (x >>> 11).toNat) (y := Float.ofNat (1 <<< 53))
    (isFinite_natCast hlt) rfl (by rw [hpow]; norm_num)
  have hquot : value (Float.ofNat (x >>> 11).toNat) / value (Float.ofNat (1 <<< 53)) =
      (x >>> 11).toNat * 2 ^ (-53 : ℤ) := by
    rw [value_natCast hlt, hpow, div_eq_mul_inv, zpow_neg]
    norm_num
  rw [hquot] at hq
  refine ⟨hq.1, hq.2.trans ?_⟩
  rw [fraction_eq]
  exact rounded_eq_self hlt (by decide) (finite_lt_limit hlt (by norm_num)).le

end Fraction

/-- Noise moves a component by its size at most. -/
theorem abs_perturb_sub_le (seed : UInt64) {size : ℝ} (h : 0 ≤ size) (v : SlotVector ℝ)
    (i : Fin 10) : |(perturb seed size v).get i - v.get i| ≤ size := by
  have hnoise : (perturb seed size v).get i - v.get i =
      (2 * fraction (state seed (i + 1)) - 1) * size := by
    simp only [perturb, Vector.get_eq_getElem, Vector.getElem_mapFinIdx]
    change v[i.val] + ((2.0 : ℝ) * fraction (state seed (i + 1)) - 1) * size - v[i.val] = _
    norm_num
  obtain ⟨h₀, h₁⟩ := fraction_mem_unit (state seed (i + 1))
  rw [hnoise, abs_mul, abs_of_nonneg h]
  refine mul_le_of_le_one_left h (abs_le.mpr ⟨?_, ?_⟩) <;> linarith

end Jitter

namespace Exact

/-- For every seed, the register never becomes zero, and registers that differ have different successors. The
fractions drawn from it are whole multiples of `2 ^ (-53)` from zero to below one, in doubles too. So, without
rounding, the filter of a channel lies within the jitter of its affinities. -/
theorem noise_within_jitter :
    (∀ seed n, Jitter.state seed n ≠ 0) ∧ Function.Injective Jitter.step ∧
    (∀ seed n, let draw : Float := Jitter.fraction (Jitter.state seed n)
      0 ≤ draw ∧ draw < 1 ∧ ∃ k : ℕ, k < 2 ^ 53 ∧ value draw = k * 2 ^ (-53 : ℤ)) ∧
    ∀ s : ChannelSettings ℝ, 0 ≤ s.jitter → ∀ i : Fin 10,
      |s.initialGate.filter.get i - s.affinity.get i| ≤ s.jitter := by
  refine ⟨Jitter.state_ne_zero, Jitter.step_injective, fun seed n => ?_, fun s hs i => ?_⟩
  · intro draw
    obtain ⟨hd, hv⟩ := Jitter.value_fraction (Jitter.state seed n)
    obtain ⟨h₀, h₁⟩ := Jitter.fraction_mem_unit (Jitter.state seed n)
    refine ⟨(zero_le_iff _).mpr ⟨hd, hv ▸ h₀⟩, ?_, _, Jitter.toNat_shiftRight_lt _,
      hv.trans (Jitter.fraction_eq _)⟩
    rw [lt_iff, value_one]
    exact ⟨hd, isNearest_one.1, hv ▸ h₁⟩
  · exact Jitter.abs_perturb_sub_le s.seed hs s.affinity i

/-- The last slot of a default channel that is seeded with zero. -/
theorem noise_within_jitter_of_seed_zero :
    let s : ChannelSettings ℝ := { Config.Default.channels.conservative with seed := 0 }
    0 ≤ s.jitter ∧ |s.initialGate.filter.get 9 - s.affinity.get 9| ≤ s.jitter := by
  intro s
  have hs : 0 ≤ s.jitter := by
    change (0 : ℝ) ≤ 0.02
    norm_num
  exact ⟨hs, noise_within_jitter.2.2.2 s hs 9⟩

end Exact
end TextIntent
