import TextIntent.Proofs.Real.Heating

/-! Heating keeps the total of a signature. Each row of the heating matrix says how a slot shares out what it
holds: no share is negative, and together they are all of it. So a heated signature holds what the signature
held, times the temperature, and has no energy only if the signature is zero. -/
namespace TextIntent.Exact

open Scalar Config

section Heated

variable {v : SlotVector ℝ}

theorem eq_zero_iff : v = SlotVector.zero ↔ ∀ i, v.get i = 0 := by
  constructor
  · rintro rfl i
    exact Vector.get_replicate 10 0 i
  · intro h
    ext i hi
    rw [SlotVector.zero, Vector.getElem_replicate]
    exact h ⟨i, hi⟩

/-- Nonnegative components do not cancel. -/
theorem sum_eq_zero_iff (hv : ∀ x ∈ v.toList, 0 ≤ x) : v.toList.sum = 0 ↔ v = SlotVector.zero := by
  rw [sum_toList, Finset.sum_eq_zero_iff_of_nonneg fun i _ => forall_toList_iff.mp hv i, eq_zero_iff]
  simp

/-- Squares do not cancel, whatever the components are. -/
theorem energy_heat_eq_zero_iff (m : SlotMatrix ℝ) (t : ℝ) (v : SlotVector ℝ) :
    (heat m t v).energy = 0 ↔ (heat m t v).values = SlotVector.zero := by
  have henergy : (heat m t v).energy =
      ∑ j, (heat m t v).values.get j * (heat m t v).values.get j := dot_eq_sum _ _
  rw [henergy, Finset.sum_mul_self_eq_zero_iff, eq_zero_iff]
  simp

theorem get_values_heat (m : SlotMatrix ℝ) (t : ℝ) (v : SlotVector ℝ) (j : Fin 10) :
    (heat m t v).values.get j = (m.apply v).get j * t := by
  rw [heat, Vector.get_map]

theorem sum_values_heat (m : SlotMatrix ℝ) (t : ℝ) (v : SlotVector ℝ) :
    (heat m t v).values.toList.sum = t * (m.apply v).toList.sum := by
  rw [sum_toList, sum_toList, Finset.mul_sum]
  apply Finset.sum_congr rfl
  intro j _
  rw [get_values_heat, mul_comm]

end Heated

/-- Under an accepted configuration every row of the heating matrix has nonnegative entries that sum to one. A
heated signature has nonnegative components that sum to those of the signature times the temperature, and its
energy is zero if and only if the signature is. -/
theorem heat_keeps_total {config : Config ℝ} (h : config.Accepted) :
    (∀ row ∈ (SlotMatrix.ofFeatures config.features).toList,
      (∀ x ∈ row.toList, 0 ≤ x) ∧ row.toList.sum = 1) ∧
    ∀ signature : SlotVector ℝ, (∀ x ∈ signature.toList, 0 ≤ x) →
      let heated := heat (SlotMatrix.ofFeatures config.features) config.features.temperature signature
      (∀ x ∈ heated.values.toList, 0 ≤ x) ∧
        heated.values.toList.sum = config.features.temperature * signature.toList.sum ∧
        (heated.energy = 0 ↔ signature = SlotVector.zero) := by
  have hbonus := partnerBonus_nonneg h
  have htemperature := temperature_pos h
  constructor
  · intro row hrow
    obtain ⟨i, hi, rfl⟩ := Vector.mem_iff_getElem.mp (Vector.mem_toList_iff.mp hrow)
    refine ⟨forall_toList_iff.mpr fun j => get_ofFeatures_nonneg hbonus ⟨i, hi⟩ j, ?_⟩
    rw [sum_toList]
    exact sum_get_ofFeatures hbonus ⟨i, hi⟩
  · intro signature hs heated
    have hvalues : ∀ x ∈ heated.values.toList, 0 ≤ x := by
      refine forall_toList_iff.mpr fun j => ?_
      rw [get_values_heat]
      exact mul_nonneg (get_apply_nonneg hbonus hs j) htemperature.le
    have hsum : heated.values.toList.sum = config.features.temperature * signature.toList.sum := by
      rw [sum_values_heat, sum_apply hbonus]
    refine ⟨hvalues, hsum, ?_⟩
    calc heated.energy = 0 ↔ heated.values = SlotVector.zero := energy_heat_eq_zero_iff _ _ _
      _ ↔ heated.values.toList.sum = 0 := (sum_eq_zero_iff hvalues).symm
      _ ↔ signature.toList.sum = 0 := by rw [hsum, mul_eq_zero, or_iff_right htemperature.ne']
      _ ↔ signature = SlotVector.zero := sum_eq_zero_iff hs

/-- A signature with all of its weight in the first slot. -/
theorem heat_first_slot :
    (Config.default : Config ℝ).Accepted ∧
      (∀ x ∈ (#v[1, 0, 0, 0, 0, 0, 0, 0, 0, 0] : SlotVector ℝ).toList, 0 ≤ x) ∧
      (heat (SlotMatrix.ofFeatures Default.features) (Default.features : FeatureSettings ℝ).temperature
        #v[1, 0, 0, 0, 0, 0, 0, 0, 0, 0]).values.toList.sum = 1 := by
  have hv : ∀ x ∈ (#v[1, 0, 0, 0, 0, 0, 0, 0, 0, 0] : SlotVector ℝ).toList, 0 ≤ x := by simp
  obtain ⟨-, hsum, -⟩ := (heat_keeps_total default_accepted).2 _ hv
  refine ⟨default_accepted, hv, hsum.trans ?_⟩
  norm_num [Config.default, Default.features]

end TextIntent.Exact
