import TextIntent.Proofs.Real.Reordering

/-! Masses after feedback, over the reals. A wrong prediction adds to one mass and takes from another, and no mass
falls below zero. What could not be taken at zero is lost, so in the end a mass is more than the start and the
sum of its steps may say. It is the largest sum that the steps have from some point on, or from the start. -/
namespace TextIntent

/-- The prediction that an operation reports on, and the category that was right. -/
def Operation.outcome? {α : Type} : Operation α → Option (Category × Category)
  | .feedback predicted actual => some (predicted, actual)
  | _ => none

namespace Exact

open Scalar Classifier Operation

section Steps

variable {β : Type} {m : ℝ}

/-- Zero, all steps added to the start, and the sums of the steps from any point on. -/
def stepSums (f : β → ℝ) (m : ℝ) (l : List β) : Set ℝ :=
  {0, m + (l.map f).sum} ∪ {x | ∃ suffix, suffix <:+ l ∧ (suffix.map f).sum = x}

theorem isGreatest_stepSums_nil (f : β → ℝ) (hm : 0 ≤ m) : IsGreatest (stepSums f m []) m := by
  refine ⟨Or.inl (Or.inr (by simp)), ?_⟩
  rintro x ((rfl | rfl) | ⟨suffix, h, rfl⟩)
  · exact hm
  · simp
  · rw [List.suffix_nil.mp h]
    simpa using hm

/-- One more step at the start. If it is cut off, only the sums of later steps are left of it. -/
theorem isGreatest_stepSums_cons {f : β → ℝ} {b : β} {l : List β} {x : ℝ} (hm : 0 ≤ m)
    (h : IsGreatest (stepSums f (max 0 (m + f b)) l) x) : IsGreatest (stepSums f m (b :: l)) x := by
  obtain ⟨hmem, hle⟩ := h
  constructor
  · rcases hmem with (h | h) | ⟨suffix, h, hsum⟩
    · exact Or.inl (Or.inl h)
    · have hx : x = max 0 (m + f b) + (l.map f).sum := h
      rcases max_choice 0 (m + f b) with hcut | hadd
      · exact Or.inr ⟨l, List.suffix_cons b l, by rw [hx, hcut, zero_add]⟩
      · refine Or.inl (Or.inr ?_)
        rw [Set.mem_singleton_iff, hx, hadd, List.map_cons, List.sum_cons, add_assoc]
    · exact Or.inr ⟨suffix, h.trans (List.suffix_cons b l), hsum⟩
  · have hstart : max 0 (m + f b) + (l.map f).sum ≤ x := hle (Or.inl (Or.inr rfl))
    have hcut : m + f b ≤ max 0 (m + f b) := le_max_right 0 (m + f b)
    rintro y ((rfl | rfl) | ⟨suffix, h, rfl⟩)
    · exact hle (Or.inl (Or.inl rfl))
    · rw [List.map_cons, List.sum_cons]
      linarith
    · rcases List.suffix_cons_iff.mp h with rfl | h
      · -- the sum of all steps without the start, which is not negative
        rw [List.map_cons, List.sum_cons]
        linarith
      · exact hle (Or.inr ⟨suffix, h, rfl⟩)

/-- What becomes of a number under steps that are cut off at zero, one after the other. -/
theorem isGreatest_foldl_max (f : β → ℝ) (l : List β) (hm : 0 ≤ m) :
    IsGreatest (stepSums f m l) (l.foldl (fun m b => max 0 (m + f b)) m) := by
  induction l generalizing m with
  | nil => exact isGreatest_stepSums_nil f hm
  | cons b l ih => exact isGreatest_stepSums_cons hm (ih (le_max_left 0 (m + f b)))

end Steps

section Feedback

variable {s : SuppressionSettings ℝ} {mass : Scores ℝ}

/-- The step of the mass of a category for a prediction and the category that was right. -/
noncomputable def massStep (s : SuppressionSettings ℝ) (c : Category)
    (outcome : Category × Category) : ℝ :=
  if outcome.1 = c ∧ outcome.2 ≠ c then s.massPenalty
  else if outcome.2 = c ∧ outcome.1 ≠ c then -s.massRelief
  else 0

/-- Feedback makes one step with every mass, and cuts it off at zero. -/
theorem get_learn (hp : 0 ≤ s.massPenalty) {c : Category} (hm : 0 ≤ mass.get c)
    (outcome : Category × Category) :
    (s.learn mass outcome.1 outcome.2).get c = max 0 (mass.get c + massStep s c outcome) := by
  obtain ⟨predicted, actual⟩ := outcome
  unfold SuppressionSettings.learn massStep
  by_cases heq : predicted = actual
  · subst heq
    simp [hm]
  by_cases ha : actual = c
  · subst ha
    simp [heq, Ne.symm heq, max_comm, sub_eq_add_neg]
  by_cases hc : predicted = c
  · subst hc
    simp [heq, ha, add_nonneg hm hp]
  · simp [heq, ha, hc, Ne.symm ha, Ne.symm hc, hm]

/-- The mass of one category through a run of feedback. No other mass has a part in it. -/
theorem get_foldl_learn (hp : 0 ≤ s.massPenalty) {c : Category} (hm : 0 ≤ mass.get c)
    (outcomes : List (Category × Category)) :
    (outcomes.foldl (fun mass o => s.learn mass o.1 o.2) mass).get c =
      outcomes.foldl (fun m o => max 0 (m + massStep s c o)) (mass.get c) := by
  induction outcomes generalizing mass with
  | nil => rfl
  | cons o outcomes ih =>
    have hstep := get_learn hp hm o
    rw [List.foldl_cons, List.foldl_cons, ih (hstep ▸ le_max_left _ _), hstep]

/-- What is reported does not change the masses. -/
theorem value_foldlM_feedback (s : SuppressionSettings ℝ) (mass : Scores ℝ)
    (outcomes : List (Category × Category)) :
    (outcomes.foldlM (fun mass o => s.feedback mass o.1 o.2) mass).value =
      outcomes.foldl (fun mass o => s.learn mass o.1 o.2) mass := by
  induction outcomes generalizing mass with
  | nil => rfl
  | cons o outcomes ih =>
    rw [List.foldlM_cons, Traced.value_bind, ih, value_feedback, List.foldl_cons]

/-- The mass of a category after any feedback is the largest of zero, of the mass at the start with all steps
added, and of the sums of the steps from some point on. -/
theorem isGreatest_mass_after_feedback (hp : 0 ≤ s.massPenalty) {c : Category}
    (hm : 0 ≤ mass.get c) (outcomes : List (Category × Category)) :
    IsGreatest (stepSums (massStep s c) (mass.get c) outcomes)
      ((outcomes.foldlM (fun mass o => s.feedback mass o.1 o.2) mass).value.get c) := by
  rw [value_foldlM_feedback, get_foldl_learn hp hm]
  exact isGreatest_foldl_max (massStep s c) outcomes hm

/-- Twice `status` was right and `help` was predicted, with nothing to take from the mass of `status`, and then
it was the other way round. The steps of `status` add up to zero, but the last of them alone counts. -/
theorem status_mass_after_three :
    let s : SuppressionSettings ℝ := Config.Default.suppression
    let outcomes : List (Category × Category) := [(.help, .status), (.help, .status), (.status, .help)]
    let mass := (outcomes.foldlM (fun mass o => s.feedback mass o.1 o.2) PerCategory.zero).value
    0 ≤ s.massPenalty ∧ 0 ≤ (PerCategory.zero : Scores ℝ).get .status ∧
      IsGreatest (stepSums (massStep s .status) 0 outcomes) (mass.get .status) ∧
      (outcomes.map (massStep s .status)).sum = 0 ∧ mass.get .status = 1 / 10 := by
  intro s outcomes mass
  have hp : 0 ≤ s.massPenalty := by
    change (0 : ℝ) ≤ 0.1
    norm_num
  have hm : 0 ≤ (PerCategory.zero : Scores ℝ).get .status := by
    rw [PerCategory.zero, PerCategory.get_const]
  have hsteps : outcomes.map (massStep s .status) = [-(1 / 20), -(1 / 20), 1 / 10] := by
    simp only [outcomes, s, massStep, Config.Default.suppression, List.map_cons, List.map_nil, ne_eq,
      reduceCtorEq, not_true, not_false_eq_true, and_true, and_false, if_true, if_false]
    norm_num
  refine ⟨hp, hm, isGreatest_mass_after_feedback hp hm outcomes, ?_, ?_⟩
  · rw [hsteps]
    norm_num
  · have hrun : mass = outcomes.foldl (fun mass o => s.learn mass o.1 o.2) PerCategory.zero :=
      value_foldlM_feedback s _ outcomes
    have hmass : mass.get .status =
        (outcomes.map (massStep s .status)).foldl (fun m x => max 0 (m + x)) 0 := by
      rw [List.foldl_map, hrun]
      exact get_foldl_learn hp hm outcomes
    rw [hmass, hsteps]
    norm_num

end Feedback

/-- The feedback in a run, without all other operations. -/
theorem foldl_learnt_filter (config : Config ℝ) (mass : Scores ℝ) (ops : List (Operation ℝ)) :
    (ops.filter isFeedback).foldl (learnt config) mass =
      (ops.filterMap outcome?).foldl (fun mass o => config.suppression.learn mass o.1 o.2) mass := by
  induction ops generalizing mass with
  | nil => rfl
  | cons op ops ih =>
    cases op with
    | feedback predicted actual => exact ih (config.suppression.learn mass predicted actual)
    | _ => exact ih mass

/-- The same holds of the masses of a classifier, whatever it is asked and however its filters are moved in
between, as long as nothing is restored. -/
theorem isGreatest_mass_snapshot_after {cls : Classifier ℝ} {ops : List (Operation ℝ)}
    (hrestore : ∀ op ∈ ops, isRestore op = false) (hp : 0 ≤ cls.config.suppression.massPenalty)
    {c : Category} (hm : 0 ≤ cls.snapshot.mass.get c) :
    IsGreatest (stepSums (massStep cls.config.suppression c) (cls.snapshot.mass.get c)
      (ops.filterMap outcome?)) ((cls.after ops).snapshot.mass.get c) := by
  rw [mass_snapshot_after hrestore, foldl_learnt_filter, get_foldl_learn hp hm]
  exact isGreatest_foldl_max _ _ hm

end Exact
end TextIntent
