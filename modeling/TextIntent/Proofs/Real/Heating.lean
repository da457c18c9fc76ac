import TextIntent.Proofs.Real.Config
import TextIntent.Heating

/-! Heating over the reals. Every slot shares out what it holds, so the total stays the same, and what a slot
keeps depends on the sum of its couplings. -/
namespace TextIntent.Exact

open Scalar Config

theorem sum_toList (v : SlotVector ℝ) : v.toList.sum = ∑ i, v.get i := by
  have h : v = Vector.ofFn v.get := Vector.ext fun i hi => by simp [Vector.get_eq_getElem]
  rw [h, Vector.toList_ofFn, List.sum_ofFn]
  simp

theorem forall_toList_iff {v : SlotVector ℝ} {p : ℝ → Prop} :
    (∀ x ∈ v.toList, p x) ↔ ∀ i, p (v.get i) := by
  constructor
  · intro h i
    exact h _ (Vector.mem_toList_iff.mpr (Vector.getElem_mem i.isLt))
  · intro h x hx
    obtain ⟨i, hi, rfl⟩ := Vector.mem_iff_getElem.mp (Vector.mem_toList_iff.mp hx)
    exact h ⟨i, hi⟩

theorem dot_eq_sum (v w : SlotVector ℝ) : SlotVector.dot v w = ∑ i, v.get i * w.get i := by
  rw [SlotVector.dot, sum_eq, sum_toList]
  exact Finset.sum_congr rfl fun i _ => Vector.getElem_zipWith i.isLt

section Couplings

variable {f : FeatureSettings ℝ}

/-- The sum of the couplings of a reference value, by which each of them is divided. -/
noncomputable def totalCoupling (f : FeatureSettings ℝ) (r : ℝ) : ℝ :=
  (f.reference.map (SlotMatrix.coupling f r)).toList.sum

theorem coupling_pos (h : 0 ≤ f.partnerBonus) (r s : ℝ) : 0 < SlotMatrix.coupling f r s := by
  unfold SlotMatrix.coupling
  have hnear := Real.exp_pos (-Scalar.abs (r - s) / f.couplingSpread)
  dsimp only
  split_ifs
  · exact add_pos_of_pos_of_nonneg hnear h
  · exact hnear

/-- A slot is coupled with itself at full strength at least. -/
theorem one_le_coupling_self (h : 0 ≤ f.partnerBonus) (r : ℝ) : 1 ≤ SlotMatrix.coupling f r r := by
  have hnear : Real.exp (-|r - r| / f.couplingSpread) = 1 := by simp
  unfold SlotMatrix.coupling
  change 1 ≤ if _ then Real.exp (-|r - r| / f.couplingSpread) + f.partnerBonus
    else Real.exp (-|r - r| / f.couplingSpread)
  rw [hnear]
  split_ifs
  · exact le_add_of_nonneg_right h
  · exact le_rfl

theorem totalCoupling_pos (h : 0 ≤ f.partnerBonus) (r : ℝ) : 0 < totalCoupling f r := by
  rw [totalCoupling, sum_toList]
  refine Finset.sum_pos (fun i _ => ?_) Finset.univ_nonempty
  rw [Vector.get_map]
  exact coupling_pos h _ _

theorem get_ofFeatures (f : FeatureSettings ℝ) (i j : Fin 10) :
    ((SlotMatrix.ofFeatures f).get i).get j =
      SlotMatrix.coupling f (f.reference.get i) (f.reference.get j) /
        totalCoupling f (f.reference.get i) := by
  simp [SlotMatrix.ofFeatures, totalCoupling, Vector.get_eq_getElem]

theorem get_ofFeatures_nonneg (h : 0 ≤ f.partnerBonus) (i j : Fin 10) :
    0 ≤ ((SlotMatrix.ofFeatures f).get i).get j := by
  rw [get_ofFeatures]
  exact div_nonneg (coupling_pos h _ _).le (totalCoupling_pos h _).le

/-- A slot shares out all that it holds. -/
theorem sum_get_ofFeatures (h : 0 ≤ f.partnerBonus) (i : Fin 10) :
    ∑ j, ((SlotMatrix.ofFeatures f).get i).get j = 1 := by
  simp only [get_ofFeatures, ← Finset.sum_div]
  rw [div_eq_one_iff_eq (totalCoupling_pos h _).ne', totalCoupling, sum_toList]
  simp [Vector.get_map]

end Couplings

section Apply

variable {f : FeatureSettings ℝ} {v : SlotVector ℝ}

theorem get_apply (m : SlotMatrix ℝ) (v : SlotVector ℝ) (j : Fin 10) :
    (m.apply v).get j = ∑ i, v.get i * (m.get i).get j := by
  rw [SlotMatrix.apply, Vector.get_ofFn, dot_eq_sum]
  simp [Vector.get_eq_getElem]

/-- What the slots share out is all there. -/
theorem sum_apply (h : 0 ≤ f.partnerBonus) (v : SlotVector ℝ) :
    ((SlotMatrix.ofFeatures f).apply v).toList.sum = v.toList.sum := by
  rw [sum_toList, sum_toList]
  simp only [get_apply]
  rw [Finset.sum_comm]
  exact Finset.sum_congr rfl fun i _ => by rw [← Finset.mul_sum, sum_get_ofFeatures h, mul_one]

/-- What one slot passes on to another. -/
theorem passedOn_nonneg (h : 0 ≤ f.partnerBonus) (hv : ∀ x ∈ v.toList, 0 ≤ x) (i j : Fin 10) :
    0 ≤ v.get i * ((SlotMatrix.ofFeatures f).get i).get j :=
  mul_nonneg (forall_toList_iff.mp hv i) (get_ofFeatures_nonneg h i j)

theorem get_apply_nonneg (h : 0 ≤ f.partnerBonus) (hv : ∀ x ∈ v.toList, 0 ≤ x) (j : Fin 10) :
    0 ≤ ((SlotMatrix.ofFeatures f).apply v).get j := by
  rw [get_apply]
  exact Finset.sum_nonneg fun i _ => passedOn_nonneg h hv i j

/-- What a slot keeps. -/
theorem le_get_apply (h : 0 ≤ f.partnerBonus) (hv : ∀ x ∈ v.toList, 0 ≤ x) (i : Fin 10) :
    v.get i / totalCoupling f (f.reference.get i) ≤ ((SlotMatrix.ofFeatures f).apply v).get i := by
  have hpos := totalCoupling_pos (f := f) h
  calc v.get i / totalCoupling f (f.reference.get i)
      = v.get i * (1 / totalCoupling f (f.reference.get i)) := by ring
    _ ≤ v.get i * ((SlotMatrix.ofFeatures f).get i).get i := by
        rw [get_ofFeatures]
        refine mul_le_mul_of_nonneg_left ?_ (forall_toList_iff.mp hv i)
        exact div_le_div_of_nonneg_right (one_le_coupling_self h _) (hpos _).le
    _ ≤ ∑ j, v.get j * ((SlotMatrix.ofFeatures f).get j).get i :=
        Finset.single_le_sum (f := fun j => v.get j * ((SlotMatrix.ofFeatures f).get j).get i)
          (fun j _ => passedOn_nonneg h hv j i) (Finset.mem_univ i)
    _ = ((SlotMatrix.ofFeatures f).apply v).get i := (get_apply _ v i).symm

end Apply

section Default

theorem values_heat_default (m : SlotMatrix ℝ) (v : SlotVector ℝ) :
    (heat m (Default.features : FeatureSettings ℝ).temperature v).values = m.apply v := by
  change (m.apply v).map (· * 1.0) = _
  norm_num

/-- The couplings of the default configuration fall at least as fast as this hyperbola. -/
theorem coupling_default_le (r s : ℝ) : SlotMatrix.coupling (Default.features : FeatureSettings ℝ) r s ≤
    20 / (20 + |r - s|) + if |r + s - 214| < 1 then 1 / 2 else 0 := by
  have hnear : Real.exp (-|r - s| / 20) ≤ 20 / (20 + |r - s|) := by
    have hpos : 0 < (20 + |r - s|) / 20 := by positivity
    have hexp : (20 + |r - s|) / 20 ≤ Real.exp (|r - s| / 20) := by
      linarith [Real.add_one_le_exp (|r - s| / 20)]
    rw [neg_div, Real.exp_neg]
    exact (inv_anti₀ hpos hexp).trans_eq (inv_div _ _)
  have hcoupling : SlotMatrix.coupling (Default.features : FeatureSettings ℝ) r s =
      if |r + s - 214| < 1 / 10 ^ 9 then Real.exp (-|r - s| / 20) + 1 / 2
      else Real.exp (-|r - s| / 20) := by
    change (if |r + s - 214.0| < 1e-9 then Real.exp (-|r - s| / 20.0) + 0.5
      else Real.exp (-|r - s| / 20.0)) = _
    norm_num
  rw [hcoupling]
  by_cases hpartner : |r + s - 214| < 1 / 10 ^ 9
  · rw [if_pos hpartner, if_pos (hpartner.trans (by norm_num))]
    linarith
  · rw [if_neg hpartner]
    refine hnear.trans (le_add_of_nonneg_right ?_)
    split_ifs <;> norm_num

/-- Under the default configuration a slot keeps a quarter of what it holds at least. -/
theorem totalCoupling_default_le {r : ℝ}
    (h : r ∈ (Default.features : FeatureSettings ℝ).reference.toList) :
    totalCoupling (Default.features : FeatureSettings ℝ) r ≤ 4 := by
  have hreference : (Default.features : FeatureSettings ℝ).reference =
      #v[7, 19, 37, 61, 91, 123, 153, 177, 195, 207] := by
    norm_num [Default.features]
  have hle := coupling_default_le r
  have hsum : totalCoupling (Default.features : FeatureSettings ℝ) r ≤
      ([7, 19, 37, 61, 91, 123, 153, 177, 195, 207].map fun s : ℝ =>
        20 / (20 + |r - s|) + if |r + s - 214| < 1 then 1 / 2 else 0).sum := by
    rw [totalCoupling, hreference, Vector.toList_map]
    exact List.sum_le_sum fun s _ => hle s
  refine hsum.trans ?_
  rw [hreference] at h
  simp only [Vector.toList_mk, List.mem_cons, List.not_mem_nil, or_false] at h
  rcases h with rfl | rfl | rfl | rfl | rfl | rfl | rfl | rfl | rfl | rfl <;>
    norm_num [abs_lt, abs_of_nonneg, abs_of_nonpos]

end Default

end TextIntent.Exact
