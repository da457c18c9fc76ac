import TextIntent.Proofs.Real.Config
import TextIntent.Proofs.Real.Heating
import TextIntent.Proofs.Real.Scores

/-! A classifier whose filters have been cleared. Nothing of a signature gets through to its channels, so they
respond to every text alike. -/
namespace TextIntent.Exact

open Scalar Config Classifier

section Responses

/-- A filter that is all zero lets nothing through; what is left is the bias. -/
theorem respond_zero (s : ChannelSettings ℝ) (heated : SlotVector ℝ) :
    (s.respond SlotVector.zero heated).value = clamp 0 1 (s.scale * s.activation.apply s.bias) := by
  have hdot : SlotVector.dot heated SlotVector.zero = 0 := by
    simp [dot_eq_sum, SlotVector.zero]
  rw [ChannelSettings.respond, value_confine, hdot, zero_add]

theorem conservative_zero (heated : SlotVector ℝ) :
    ((Default.channels : PerChannel (ChannelSettings ℝ)).conservative.respond SlotVector.zero
      heated).value ∈ Set.Icc 0.2689 0.26895 := by
  have hlo := Real.exp_one_gt_d9
  have hhi := Real.exp_one_lt_d9
  have hbounds : 0.2689 ≤ 1 / (1 + Real.exp 1) ∧ 1 / (1 + Real.exp 1) ≤ 0.26895 := by
    rw [le_div_iff₀ (by positivity), div_le_iff₀ (by positivity)]
    constructor <;> linarith
  have happly : (Default.channels : PerChannel (ChannelSettings ℝ)).conservative.scale *
      Activation.sigmoid.apply (-1.0 : ℝ) = 1 / (1 + Real.exp 1) := by
    change (1.0 : ℝ) * (1 / (1 + Real.exp (-(-1.0)))) = _
    norm_num
  rw [respond_zero]
  change clamp 0 1 ((Default.channels : PerChannel (ChannelSettings ℝ)).conservative.scale *
      Activation.sigmoid.apply (-1.0 : ℝ)) ∈ _
  rw [happly, clamp_of_mem (by linarith) (by linarith)]
  exact hbounds

theorem balanced_zero (heated : SlotVector ℝ) :
    ((Default.channels : PerChannel (ChannelSettings ℝ)).balanced.respond SlotVector.zero
      heated).value = 1 / 2 := by
  rw [respond_zero]
  change clamp 0 1 ((1.0 : ℝ) * (0.5 * (Real.tanh 0.0 + 1))) = _
  have h : (1.0 : ℝ) * (0.5 * (Real.tanh 0.0 + 1)) = 1 / 2 := by
    norm_num
  rw [h, clamp_of_mem (by norm_num) (by norm_num)]

/-- The logarithm in the response of the liberal channel. -/
theorem log_one_add_exp_bounds : 0.44 ≤ Real.log (1 + Real.exp (-(1 / 2))) ∧
    Real.log (1 + Real.exp (-(1 / 2))) ≤ 1 / 2 := by
  have hone := Real.exp_one_gt_d9
  have hsq : Real.exp (1 / 2) ^ 2 = Real.exp 1 := by
    rw [← Real.exp_nat_mul]
    norm_num
  have hpos : 0 < Real.exp (1 / 2) := Real.exp_pos _
  have hle : Real.exp (1 / 2) ≤ 1.65 :=
    le_of_sq_le_sq (hsq ▸ Real.exp_one_lt_d9.le.trans (by norm_num)) (by norm_num)
  have hlog : Real.log (Real.exp (1 / 2)) = 1 / 2 := Real.log_exp _
  rw [Real.exp_neg]
  generalize Real.exp (1 / 2) = z at *
  have hfrac : 1 + z⁻¹ = (z + 1) / z := by field_simp
  rw [hfrac]
  constructor
  · -- a half of the quotient is far enough from zero for the tangent of the logarithm
    have htwo := Real.log_two_gt_d9
    have hsplit : Real.log ((z + 1) / z) = Real.log 2 + Real.log ((z + 1) / z / 2) := by
      rw [← Real.log_mul two_ne_zero (by positivity), mul_div_cancel₀ _ two_ne_zero]
    have htangent : 1 - ((z + 1) / z / 2)⁻¹ ≤ Real.log ((z + 1) / z / 2) :=
      Real.one_sub_inv_le_log_of_pos (by positivity)
    have hinv : ((z + 1) / z / 2)⁻¹ ≤ 1.25 := by
      rw [div_div, inv_div, div_le_iff₀ (by linarith)]
      linarith
    linarith
  · refine (Real.log_le_log (by positivity) ?_).trans_eq hlog
    rw [div_le_iff₀ hpos, ← sq, hsq]
    linarith

theorem liberal_zero (heated : SlotVector ℝ) :
    ((Default.channels : PerChannel (ChannelSettings ℝ)).liberal.respond SlotVector.zero
      heated).value ∈ Set.Icc 0.47 0.5 := by
  obtain ⟨hlo, hhi⟩ := log_one_add_exp_bounds
  have happly : (Default.channels : PerChannel (ChannelSettings ℝ)).liberal.scale *
      Activation.softplus.apply (0.5 : ℝ) =
        1 / 2 * (1 / 2 + Real.log (1 + Real.exp (-(1 / 2)))) := by
    change (0.5 : ℝ) * (larger 0.5 0 + Real.log (1 + Real.exp (-|0.5|))) = _
    rw [larger_eq, max_eq_left (by norm_num), abs_of_nonneg (by norm_num)]
    norm_num
  rw [respond_zero]
  change clamp 0 1 ((Default.channels : PerChannel (ChannelSettings ℝ)).liberal.scale *
      Activation.softplus.apply (0.5 : ℝ)) ∈ _
  rw [happly, clamp_of_mem (by linarith) (by linarith)]
  constructor <;> linarith

/-- The responses of the default configuration, whatever the signature. -/
theorem respond_cleared {gates : Gates ℝ} (h : ∀ c, (gates.get c).filter = SlotVector.zero)
    (heated : SlotVector ℝ) :
    let a := (gates.respond (Default.channels : PerChannel (ChannelSettings ℝ)) heated).value
    a.conservative ∈ Set.Icc 0.2689 0.26895 ∧ a.balanced = 1 / 2 ∧ a.liberal ∈ Set.Icc 0.47 0.5 := by
  intro a
  have hget (c : Channel) : a.get c =
      ((Default.channels.get c : ChannelSettings ℝ).respond SlotVector.zero heated).value := by
    rw [← h c]
    cases c <;> rfl
  refine ⟨?_, (hget .balanced).trans (balanced_zero heated), ?_⟩
  · change a.get .conservative ∈ _
    exact hget .conservative ▸ conservative_zero heated
  · change a.get .liberal ∈ _
    exact hget .liberal ▸ liberal_zero heated

end Responses

section Restored

/-- Over the reals only the masses of a snapshot can be out of order. -/
theorem fault?_eq_none {s : Snapshot ℝ} (h : ∀ c, 0 ≤ s.mass.get c) : s.fault? = none := by
  have hfilters : filterFault? s.filters = none := by
    simp [filterFault?]
  have hmass : (demandMass s.mass).run.value = .ok () := by
    have hnone : (Category.all.findSome? fun c =>
        if (!isFinite (s.mass.get c)) = true ∨ s.mass.get c < 0 then
          some (NumericalFault.massInvalid c (s.mass.get c)) else none) = none :=
      List.findSome?_eq_none_iff.mpr fun c _ => if_neg (by simpa using h c)
    unfold demandMass
    simp only [hnone]
    rfl
  rw [Snapshot.fault?, hfilters]
  simp only [hmass]

/-- Filters and masses that are all zero. -/
noncomputable def cleared : Snapshot ℝ := ⟨.zero, ⟨.zero, .zero, .zero⟩⟩

theorem filter_cleared (cls : Classifier ℝ) (c : Channel) :
    ((cls.after [.restore cleared]).gates.get c).filter = SlotVector.zero := by
  have hsnapshot : (cls.after [.restore cleared]).snapshot = cleared := by
    have hfault : cleared.fault? = none := fault?_eq_none fun c => (PerCategory.get_const 0 c).ge
    rw [after_cons, after_nil, snapshot_perform, Snapshot.after, hfault]
    rfl
  have hfilters : (cls.after [.restore cleared]).gates.filters = cleared.filters :=
    congrArg Snapshot.filters hsnapshot
  have hget : ((cls.after [.restore cleared]).gates.get c).filter = cleared.filters.get c := by
    rw [← hfilters, Gates.filters, PerChannel.get_map]
  rw [hget]
  cases c <;> rfl

end Restored

end TextIntent.Exact
