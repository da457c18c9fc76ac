import TextIntent.Proofs.Real.Scalar
import TextIntent.Signature

/-! The length of a vector, and scaling over the reals. The division by a largest component cancels, so a
vector is divided by its length, what has been scaled is not scaled again, and a positive factor is not
seen. -/
namespace TextIntent

theorem sum_map_div_sq {β : Type} (l : List β) (f : β → ℝ) (c : ℝ) :
    (l.map fun b => (f b / c) ^ 2).sum = (l.map fun b => f b ^ 2).sum / c ^ 2 := by
  simp only [div_pow]
  simp only [div_eq_mul_inv, List.sum_map_mul_right]

namespace SlotVector

noncomputable def norm (v : SlotVector ℝ) : ℝ := √(v.toList.map fun x => x ^ 2).sum

theorem norm_nonneg (v : SlotVector ℝ) : 0 ≤ v.norm := Real.sqrt_nonneg _

theorem norm_of_forall_eq_zero {v : SlotVector ℝ} (h : ∀ x ∈ v.toList, x = 0) : v.norm = 0 := by
  have hsum : (v.toList.map fun x => x ^ 2).sum = 0 := by
    refine List.sum_eq_zero fun y hy => ?_
    obtain ⟨x, hx, rfl⟩ := List.mem_map.mp hy
    simp [h x hx]
  rw [norm, hsum, Real.sqrt_zero]

/-- Division of all components. -/
theorem sqrt_sum_div_sq (v : SlotVector ℝ) {c : ℝ} (hc : 0 ≤ c) :
    √(v.toList.map fun x => (x / c) ^ 2).sum = v.norm / c := by
  rw [sum_map_div_sq, Real.sqrt_div' _ (sq_nonneg c), Real.sqrt_sq hc]
  rfl

theorem norm_map_mul (k : ℝ) (v : SlotVector ℝ) : norm (v.map fun x => k * x) = |k| * v.norm := by
  have hsum : ((v.map fun x => k * x).toList.map fun x => x ^ 2).sum =
      k ^ 2 * (v.toList.map fun x => x ^ 2).sum := by
    rw [Vector.toList_map, List.map_map, ← List.sum_map_mul_left]
    simp only [Function.comp_def, mul_pow]
  rw [norm, hsum, Real.sqrt_mul (sq_nonneg k), Real.sqrt_sq_eq_abs, norm]

end SlotVector

namespace Exact

open Scalar

variable {v : SlotVector ℝ}

/-- The largest absolute value of a component. -/
noncomputable def largest (v : SlotVector ℝ) : ℝ := peak (v.toList.map Scalar.abs)

theorem largest_nonneg (v : SlotVector ℝ) : 0 ≤ largest v := (le_peak _).1

theorem norm_of_largest_eq_zero (h : largest v = 0) : v.norm = 0 :=
  SlotVector.norm_of_forall_eq_zero fun x hx =>
    abs_nonpos_iff.mp (((le_peak _).2 |x| (List.mem_map_of_mem hx)).trans h.le)

/-- Vectors shorter than `epsilon` are kept, all others divided by their length. -/
theorem normalize_eq (v : SlotVector ℝ) :
    v.normalize = if v.norm < Scalar.epsilon then v else v.map fun x => x / v.norm := by
  by_cases hz : largest v = 0
  · have hn : v.norm < Scalar.epsilon := by
      rw [norm_of_largest_eq_zero hz]
      exact epsilon_pos
    rw [if_pos hn]
    exact if_pos ((isZero_iff _).mpr hz)
  · have hquot : √(sum (v.toList.map fun x => x / largest v * (x / largest v))) =
        v.norm / largest v := by
      simp only [sum_eq, ← sq]
      exact v.sqrt_sum_div_sq (largest_nonneg v)
    have hmul : largest v * (v.norm / largest v) = v.norm := mul_div_cancel₀ _ hz
    have hdiv (x : ℝ) : x / largest v / (v.norm / largest v) = x / v.norm :=
      div_div_div_cancel_right₀ hz x v.norm
    change (if isZero (largest v) = true then v
      else if largest v * √(sum (v.toList.map fun x => x / largest v * (x / largest v))) < epsilon
        then v
      else v.map fun x => x / largest v /
        √(sum (v.toList.map fun x => x / largest v * (x / largest v)))) = _
    rw [if_neg (mt (isZero_iff _).mp hz), hquot, hmul]
    simp only [hdiv]

theorem normalize_of_isZero (h : v.isZero = true) : v.normalize = v := by
  have hn : v.norm = 0 := SlotVector.norm_of_forall_eq_zero fun x hx =>
    (isZero_iff x).mp (Vector.all_eq_true'.mp h x (Vector.mem_toList_iff.mp hx))
  rw [normalize_eq, if_pos (hn ▸ epsilon_pos)]

/-- A vector that is not short has length one after scaling. -/
theorem norm_normalize (h : ¬v.norm < Scalar.epsilon) : v.normalize.norm = 1 := by
  have hpos : 0 < v.norm := epsilon_pos.trans_le (not_lt.mp h)
  rw [normalize_eq, if_neg h, SlotVector.norm, Vector.toList_map, List.map_map]
  exact (v.sqrt_sum_div_sq hpos.le).trans (div_self hpos.ne')

theorem normalize_of_norm_eq_one (h : v.norm = 1) : v.normalize = v := by
  rw [normalize_eq, h]
  split
  · rfl
  · exact Vector.ext fun i hi => by simp

/-- Scaling twice is scaling once. -/
theorem normalize_normalize (v : SlotVector ℝ) : v.normalize.normalize = v.normalize := by
  by_cases h : v.norm < Scalar.epsilon
  · have hv : v.normalize = v := by rw [normalize_eq, if_pos h]
    rw [hv, hv]
  · exact normalize_of_norm_eq_one (norm_normalize h)

/-- Scaling makes no component negative. -/
theorem zero_le_normalize (h : ∀ x ∈ v.toList, 0 ≤ x) : ∀ x ∈ v.normalize.toList, 0 ≤ x := by
  intro x hx
  rw [normalize_eq] at hx
  split at hx
  · exact h x hx
  · rw [Vector.toList_map] at hx
    obtain ⟨y, hy, rfl⟩ := List.mem_map.mp hx
    exact div_nonneg (h y hy) v.norm_nonneg

/-- A positive factor does not change the direction, and length one is all that scaling adds to it. -/
theorem normalize_map_mul {k : ℝ} (hk : 0 < k) (hv : Scalar.epsilon ≤ v.norm)
    (hkv : Scalar.epsilon ≤ SlotVector.norm (v.map fun x => k * x)) :
    SlotVector.normalize (v.map fun x => k * x) = v.normalize := by
  rw [normalize_eq, normalize_eq, if_neg (not_lt.mpr hkv), if_neg (not_lt.mpr hv),
    SlotVector.norm_map_mul, abs_of_pos hk, Vector.map_map]
  simp only [Function.comp_def, mul_div_mul_left _ _ hk.ne']

/-- A vector shorter than `epsilon` is kept and any other is divided by its length. So what has been scaled is not
scaled again, and a positive factor makes no difference as long as both vectors are long enough to be
scaled. -/
theorem normalize_kept_or_divided :
    (∀ v : SlotVector ℝ, v.norm < Scalar.epsilon → v.normalize = v) ∧
    (∀ v : SlotVector ℝ, Scalar.epsilon ≤ v.norm → v.normalize = v.map fun x => x / v.norm) ∧
    (∀ v : SlotVector ℝ, v.normalize.normalize = v.normalize) ∧
    ∀ (v : SlotVector ℝ) (k : ℝ), 0 < k → Scalar.epsilon ≤ v.norm →
      Scalar.epsilon ≤ SlotVector.norm (v.map fun x => k * x) →
        SlotVector.normalize (v.map fun x => k * x) = v.normalize := by
  refine ⟨fun v h => ?_, fun v h => ?_, normalize_normalize, fun v k hk => normalize_map_mul hk⟩
  · rw [normalize_eq, if_pos h]
  · rw [normalize_eq, if_neg (not_lt.mpr h)]

/-- A vector of length five, ten times the vector, and one that is too short. -/
theorem normalize_three_four :
    let v : SlotVector ℝ := #v[3, 4, 0, 0, 0, 0, 0, 0, 0, 0]
    let faint : SlotVector ℝ := #v[1 / 10 ^ 10, 0, 0, 0, 0, 0, 0, 0, 0, 0]
    (faint.norm < Scalar.epsilon ∧ faint.normalize = faint) ∧
      (Scalar.epsilon ≤ v.norm ∧ v.normalize = v.map fun x => x / v.norm) ∧
      ((0 : ℝ) < 10 ∧ Scalar.epsilon ≤ SlotVector.norm (v.map fun x => 10 * x) ∧
        SlotVector.normalize (v.map fun x => 10 * x) = v.normalize) := by
  intro v faint
  obtain ⟨hkept, hscaled, -, hfactor⟩ := normalize_kept_or_divided
  have hv : v.norm = 5 := by
    have hsum : (v.toList.map fun x => x ^ 2).sum = 5 ^ 2 := by norm_num [v, Vector.toList]
    rw [SlotVector.norm, hsum, Real.sqrt_sq (by norm_num)]
  have hfaint : faint.norm < Scalar.epsilon := by
    rw [SlotVector.norm, epsilon_eq, Real.sqrt_lt' (by positivity)]
    norm_num [faint, Vector.toList]
  have hlong : Scalar.epsilon ≤ v.norm := by
    rw [hv, epsilon_eq]
    norm_num
  have hten : Scalar.epsilon ≤ SlotVector.norm (v.map fun x => 10 * x) := by
    rw [SlotVector.norm_map_mul, hv, epsilon_eq]
    norm_num
  exact ⟨⟨hfaint, hkept _ hfaint⟩, ⟨hlong, hscaled _ hlong⟩, by norm_num, hten,
    hfactor v 10 (by norm_num) hlong hten⟩

end Exact
end TextIntent
