import TextIntent.Fusion
import TextIntent.Proofs.Config.Accepted
import TextIntent.Proofs.Scores.Bounds

/-! Evidence in doubles. Each of the three kinds ends in a division by a total, so its scores lie between
zero and one once the scores before the division are known not to be negative. -/
namespace TextIntent.Evidence

open Scalar Binary64

variable {config : Config Float}

theorem zero_le_countWord (h : config.Accepted) (word : String) {score : Float} (hs : 0 ≤ score) :
    0 ≤ countWord config.evidence word score := by
  have hone := zero_le_add hs Binary64.zero_le_one
  unfold countWord
  split_ifs
  · exact zero_le_add hone h.phraseBonus.2
  · exact hone

theorem zero_le_wordHits (h : config.Accepted) (lower : String) (c : Category) :
    0 ≤ (wordHits config.evidence lower).get c := by
  -- neither loop, over the tables and over the words of one, makes a score negative
  refine List.foldlRecOn (motive := fun scores : Scores Float => ∀ d, 0 ≤ scores.get d) _ _
    PerCategory.zero_le_get_zero (fun scores hs table _ => ?_) c
  refine List.foldlRecOn (motive := fun scores : Scores Float => ∀ d, 0 ≤ scores.get d) _ _ hs
    fun scores hs word _ => ?_
  intro d
  split_ifs
  · rw [PerCategory.get_modify]
    split_ifs
    · exact zero_le_countWord h word (hs d)
    · exact hs d
  · exact hs d

theorem lexical_mem_unit (h : config.Accepted) (lower : String) (c : Category) :
    InUnit ((lexical config.evidence lower).get c) := by
  refine PerCategory.normalized_mem_unit (fun d _ => ?_) c
  split_ifs
  · rw [prior, PerCategory.set, PerCategory.get_modify, PerCategory.get_const]
    split_ifs
    · exact h.noMatchWeight.2
    · exact Binary64.zero_le_one
  · exact zero_le_wordHits h lower d

theorem subspace_mem_unit (e : EvidenceSettings Float) (signature : SlotVector Float)
    (c : Category) : InUnit ((subspace e signature).get c) := by
  refine PerCategory.normalized_mem_unit (fun d _ => ?_) c
  rw [PerCategory.get_ofFn]
  exact zero_le_larger_zero _

/-- The two ends of a signature differ by at most one. -/
theorem symmetry_mem_unit {v : SlotVector Float} (h : ∀ x ∈ v.toList, Defined x → InUnit x)
    (hd : Defined (symmetry v)) : InUnit (symmetry v) := by
  have hmean := (defined_of_sub hd).2
  have hsum := (defined_of_div hmean).1
  refine InUnit.one_sub (InUnit.mean (by simp) fun x hx => ?_)
  have hxd := defined_of_sum hsum hx
  rw [Vector.mem_toList_iff, Vector.mem_iff_getElem] at hx
  obtain ⟨i, hi, rfl⟩ := hx
  rw [Vector.getElem_zipWith] at hxd ⊢
  have hsub := (defined_abs_iff _).mp hxd
  obtain ⟨h₁, h₂⟩ := defined_of_sub hsub
  refine InUnit.abs_sub (h _ ?_ h₁) (h _ ?_ h₂)
  · simp
  · simp [Vector.getElem_reverse]

/-- No score is negative, though some may be undefined. -/
def NoneNegative (scores : Scores Float) : Prop :=
  ∀ c, Defined (scores.get c) → 0 ≤ scores.get c

theorem noneNegative_zero : NoneNegative PerCategory.zero :=
  fun c _ => PerCategory.zero_le_get_zero c

/-- Adding shares to scores that are not negative. -/
theorem NoneNegative.route {routes : List (Route Float)} {feature : Float} {scores : Scores Float}
    (hr : ∀ r ∈ routes, r.weight.isFinite = true ∧ 0 ≤ r.weight)
    (hf : Defined feature → InUnit feature) (hs : NoneNegative scores) :
    NoneNegative (Evidence.route routes feature scores) := by
  refine List.foldlRecOn (motive := NoneNegative) routes _ hs fun scores hs r hmem => ?_
  intro d hd
  rw [PerCategory.get_modify] at hd ⊢
  split_ifs at hd ⊢
  · obtain ⟨h₁, h₂⟩ := defined_of_add hd
    obtain ⟨hw, hw₀⟩ := hr r hmem
    exact zero_le_add (hs d h₁) (mul_le_of_inUnit hw₀ hw (hf (defined_of_mul h₂).2)).1
  · exact hs d hd

theorem shape_mem_unit (h : config.Accepted) {signature : SlotVector Float}
    (hv : ∀ x ∈ signature.toList, Defined x → InUnit x) (heated : SlotVector Float)
    (c : Category) : InUnit ((shape config.evidence signature heated).get c) := by
  have hroute {r : Route Float} (hr : r ∈ config.evidence.symmetryRoutes ∨
      r ∈ config.evidence.concentrationRoutes ∨ r ∈ config.evidence.uniformityRoutes) :
      r.weight.isFinite = true ∧ 0 ≤ r.weight :=
    h.routeWeight (by simpa [or_assoc] using hr)
  have hsymmetry := noneNegative_zero.route (fun r hr => hroute (Or.inl hr)) (symmetry_mem_unit hv)
  refine PerCategory.normalized_mem_unit ?_ c
  refine (hsymmetry.route (fun r hr => hroute (Or.inr (Or.inl hr))) ?_).route
    (fun r hr => hroute (Or.inr (Or.inr hr))) InUnit.clamp
  intro _
  simp only [Shape.of]
  split_ifs
  · exact InUnit.one
  · exact InUnit.zero

end TextIntent.Evidence
