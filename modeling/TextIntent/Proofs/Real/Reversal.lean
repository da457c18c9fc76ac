import TextIntent.Proofs.Real.Heating

/-! Heating from the other end. If the reference values pair off from both ends, each with its partner, then the
heating matrix is the same when its rows and columns are read backwards. A signature that is reversed is heated
to the reverse of what the signature is heated to. -/
namespace TextIntent.Exact

open Scalar Config

/-- Slots are partners if they are as far from the two ends. -/
def PairedFromEnds (f : FeatureSettings ℝ) : Prop :=
  ∀ i, f.reference.get i + f.reference.get i.rev = f.partnerSum

/-- The entries are the same from the last slot down. -/
def Centrosymmetric (m : SlotMatrix ℝ) : Prop := ∀ i j, (m.get i).get j = (m.get i.rev).get j.rev

section Couplings

variable {f : FeatureSettings ℝ}

/-- Partners of two values are coupled as the values are: they are as far apart, and they are partners of each
other if the values are, to within the same tolerance. -/
theorem coupling_partners (f : FeatureSettings ℝ) (r s : ℝ) :
    SlotMatrix.coupling f (f.partnerSum - r) (f.partnerSum - s) = SlotMatrix.coupling f r s := by
  have hdistance : |f.partnerSum - r - (f.partnerSum - s)| = |r - s| := by
    rw [sub_sub_sub_cancel_left, abs_sub_comm]
  have hoffset : |f.partnerSum - r + (f.partnerSum - s) - f.partnerSum| = |r + s - f.partnerSum| := by
    rw [← abs_neg]
    congr 1
    ring
  simp only [SlotMatrix.coupling, abs_eq, hdistance, hoffset]

theorem coupling_rev (h : PairedFromEnds f) (i j : Fin 10) :
    SlotMatrix.coupling f (f.reference.get i.rev) (f.reference.get j.rev) =
      SlotMatrix.coupling f (f.reference.get i) (f.reference.get j) := by
  have hpartner (k : Fin 10) : f.reference.get k.rev = f.partnerSum - f.reference.get k :=
    eq_sub_of_add_eq' (h k)
  rw [hpartner i, hpartner j, coupling_partners]

theorem totalCoupling_rev (h : PairedFromEnds f) (i : Fin 10) :
    totalCoupling f (f.reference.get i.rev) = totalCoupling f (f.reference.get i) := by
  rw [totalCoupling, totalCoupling, sum_toList, sum_toList]
  simp only [Vector.get_map]
  calc ∑ j, SlotMatrix.coupling f (f.reference.get i.rev) (f.reference.get j)
      = ∑ j : Fin 10, SlotMatrix.coupling f (f.reference.get i.rev) (f.reference.get j.rev) :=
        (Equiv.sum_comp Fin.revPerm _).symm
    _ = ∑ j, SlotMatrix.coupling f (f.reference.get i) (f.reference.get j) := by
        apply Finset.sum_congr rfl
        intro j _
        exact coupling_rev h i j

theorem centrosymmetric_ofFeatures (h : PairedFromEnds f) :
    Centrosymmetric (SlotMatrix.ofFeatures f) := by
  intro i j
  rw [get_ofFeatures, get_ofFeatures, coupling_rev h, totalCoupling_rev h]

end Couplings

theorem dot_reverse (v w : SlotVector ℝ) :
    SlotVector.dot v.reverse w.reverse = SlotVector.dot v w := by
  rw [dot_eq_sum, dot_eq_sum]
  simp only [Vector.get_reverse]
  exact Equiv.sum_comp Fin.revPerm fun i => v.get i * w.get i

theorem apply_reverse {m : SlotMatrix ℝ} (h : Centrosymmetric m) (v : SlotVector ℝ) :
    m.apply v.reverse = (m.apply v).reverse := by
  ext j hj
  change (m.apply v.reverse).get ⟨j, hj⟩ = (m.apply v).reverse.get ⟨j, hj⟩
  generalize (⟨j, hj⟩ : Fin 10) = k
  rw [Vector.get_reverse, get_apply, get_apply]
  calc ∑ i, v.reverse.get i * (m.get i).get k
      = ∑ i : Fin 10, v.get i.rev * (m.get i.rev).get k.rev := by
        apply Finset.sum_congr rfl
        intro i _
        rw [Vector.get_reverse, h i k]
    _ = ∑ i, v.get i * (m.get i).get k.rev :=
        Equiv.sum_comp Fin.revPerm fun i => v.get i * (m.get i).get k.rev

theorem heat_reverse {m : SlotMatrix ℝ} (h : Centrosymmetric m) (t : ℝ) (v : SlotVector ℝ) :
    heat m t v.reverse = ⟨(heat m t v).values.reverse, (heat m t v).energy⟩ := by
  have hvalues : (m.apply v.reverse).map (· * t) = ((m.apply v).map (· * t)).reverse := by
    rw [apply_reverse h, Vector.map_reverse]
  unfold heat
  dsimp only
  rw [hvalues, dot_reverse]

/-- If the reference values pair off from both ends, the heating matrix is the same from the other end, and a
reversed vector is heated to the reversed values with the same energy. -/
theorem centrosymmetric_and_heat_reverse {f : FeatureSettings ℝ}
    (h : ∀ i, f.reference.get i + f.reference.get i.rev = f.partnerSum) :
    (∀ i j, ((SlotMatrix.ofFeatures f).get i).get j =
      ((SlotMatrix.ofFeatures f).get i.rev).get j.rev) ∧
    ∀ v, heat (SlotMatrix.ofFeatures f) f.temperature v.reverse =
      ⟨(heat (SlotMatrix.ofFeatures f) f.temperature v).values.reverse,
        (heat (SlotMatrix.ofFeatures f) f.temperature v).energy⟩ :=
  ⟨centrosymmetric_ofFeatures h, heat_reverse (centrosymmetric_ofFeatures h) f.temperature⟩

/-- The default reference values pair off, with the sum 214. -/
theorem default_heat_reverse :
    (∀ i, (Default.features : FeatureSettings ℝ).reference.get i +
      (Default.features : FeatureSettings ℝ).reference.get i.rev =
        (Default.features : FeatureSettings ℝ).partnerSum) ∧
    (heat (SlotMatrix.ofFeatures Default.features) (Default.features : FeatureSettings ℝ).temperature
        (#v[1, 0, 0, 0, 0, 0, 0, 0, 0, 0] : SlotVector ℝ).reverse).values =
      (heat (SlotMatrix.ofFeatures Default.features) (Default.features : FeatureSettings ℝ).temperature
        #v[1, 0, 0, 0, 0, 0, 0, 0, 0, 0]).values.reverse := by
  have hpaired : ∀ i, (Default.features : FeatureSettings ℝ).reference.get i +
      (Default.features : FeatureSettings ℝ).reference.get i.rev =
        (Default.features : FeatureSettings ℝ).partnerSum := by
    intro i
    fin_cases i <;> norm_num [Default.features, Vector.get]
  exact ⟨hpaired, congrArg Heated.values
    ((centrosymmetric_and_heat_reverse hpaired).2 #v[1, 0, 0, 0, 0, 0, 0, 0, 0, 0])⟩

end TextIntent.Exact
