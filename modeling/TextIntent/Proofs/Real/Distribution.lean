import TextIntent.Proofs.Real.Words

/-! Evidence as distributions, over the reals and under the default configuration. Scores are divided by their
total and a guard, so shares make up a whole but for the guard as soon as the total is not small. Each kind of
evidence has a reason of its own for that: words count one each, or there is the prior; the row of `greeting`
takes nothing from the offset; and a signature that is not longer than one is not very uneven. -/
namespace TextIntent.Exact

open Scalar Config

/-- Shares between zero and one that make up a whole, but for a tolerance. -/
structure IsDistribution (tolerance : ℝ) (s : Scores ℝ) : Prop where
  nonneg (c : Category) : 0 ≤ s.get c
  le_one (c : Category) : s.get c ≤ 1
  abs_total_sub_le : |s.total - 1| ≤ tolerance

theorem isDistribution_normalized {s : Scores ℝ} (h : ∀ c, 0 ≤ s.normalized.get c)
    (ht : 1 / 2 ≤ s.total) : IsDistribution 1e-8 s.normalized where
  nonneg := h
  le_one c := (get_le_total h c).trans (total_normalized_le_one s)
  abs_total_sub_le := by
    have hle := total_normalized_le_one s
    have hge := le_total_normalized ht
    rw [abs_le]
    constructor <;> linarith

theorem isDistribution_lexical {e : EvidenceSettings ℝ} (h : e.Accepted) (lower : String) :
    IsDistribution 1e-8 (Evidence.lexical e lower) := by
  obtain ⟨hbonus, hweight, -⟩ := (evidenceChecks_iff e).mp h
  have hnonneg := lexical_nonneg hbonus hweight lower
  by_cases hw : Evidence.hasWords e lower = true
  · rw [(lexical_of_hasWords hbonus hw).2] at hnonneg ⊢
    exact isDistribution_normalized hnonneg (by linarith [one_le_total_wordHits hbonus hw])
  · rw [lexical_of_not_hasWords hw] at hnonneg ⊢
    exact isDistribution_normalized hnonneg (by rw [total_prior]; linarith)

variable {v : SlotVector ℝ}

theorem isDistribution_subspace (hv : Short v) :
    IsDistribution 1e-8 (Evidence.subspace Default.evidence v) := by
  refine isDistribution_normalized (subspace_nonneg v) ?_
  have hgreeting := get_le_total (s := .ofFn (Evidence.projection Default.evidence v))
    (fun c => by rw [PerCategory.get_ofFn]; exact projection_nonneg _ v c) .greeting
  rw [PerCategory.get_ofFn] at hgreeting
  exact (projection_unknown_le hv).1.trans hgreeting

theorem isDistribution_shape (hv : Short v) (heated : SlotVector ℝ) :
    IsDistribution 1e-8 (Evidence.shape Default.evidence v heated) := by
  have hnonneg := shape_nonneg hv heated
  have hs : 0 ≤ (Evidence.Shape.of (Default.evidence : EvidenceSettings ℝ) v heated).symmetry :=
    symmetry_nonneg hv
  have hc := concentration_nonneg Default.evidence v heated
  have hu := uniformity_bounds hv Default.evidence heated
  rw [default_shape] at hnonneg ⊢
  refine isDistribution_normalized hnonneg ?_
  rw [total_routed]
  linarith

/-- All three kinds of evidence are distributions, for every text, every signature that is not longer than one and
has no negative component, and whatever has been heated. -/
theorem isDistribution_gather (lower : String) (h₀ : ∀ x ∈ v.toList, 0 ≤ x) (h₁ : v.norm ≤ 1)
    (heated : SlotVector ℝ) (channel : Channel) :
    IsDistribution 1e-8
      ((Evidence.gather (Default.evidence : EvidenceSettings ℝ) lower v heated).get channel) := by
  have hv : Short v := ⟨h₀, Real.sqrt_le_one.mp h₁⟩
  cases channel with
  | conservative => exact isDistribution_lexical default_accepted.evidence lower
  | balanced => exact isDistribution_subspace hv
  | liberal => exact isDistribution_shape hv heated

/-- A signature of length one on which the read-out of `unknown` is cut off, and a heated vector that is no
heated signature at all. -/
theorem isDistribution_gather_of_two_slots :
    let v : SlotVector ℝ := #v[3 / 5, 4 / 5, 0, 0, 0, 0, 0, 0, 0, 0]
    let heated : SlotVector ℝ := #v[-1, 0, 0, 0, 7, 0, 0, 0, 0, 0]
    let evidence := Evidence.gather (Default.evidence : EvidenceSettings ℝ) "hello" v heated
    (∀ x ∈ v.toList, 0 ≤ x) ∧ v.norm ≤ 1 ∧ IsDistribution 1e-8 (evidence.get .conservative) ∧
      IsDistribution 1e-8 (evidence.get .balanced) ∧ IsDistribution 1e-8 (evidence.get .liberal) := by
  intro v heated evidence
  have h₀ : ∀ x ∈ v.toList, 0 ≤ x := by
    simp only [v, Vector.toList_mk, List.forall_mem_cons, List.not_mem_nil, false_implies, implies_true]
    norm_num
  have h₁ : v.norm ≤ 1 := by
    refine Real.sqrt_le_one.mpr ?_
    simp only [v, Vector.toList_mk, List.map_cons, List.map_nil, List.sum_cons, List.sum_nil]
    norm_num
  exact ⟨h₀, h₁, isDistribution_gather "hello" h₀ h₁ heated .conservative,
    isDistribution_gather "hello" h₀ h₁ heated .balanced,
    isDistribution_gather "hello" h₀ h₁ heated .liberal⟩

end TextIntent.Exact
