import TextIntent.Proofs.Real.Config

/-! Learning in another order. Over the reals an adjustment subtracts its step from the filter of its channel and
leaves everything else, so what filters become is a sum over a run, in whatever order. Masses stop at zero, so
the feedback has to keep its order, but it does not matter what happens in between. -/
namespace TextIntent

namespace Operation

variable {α : Type}

/-- Feedback changes the masses and nothing else. -/
def isFeedback : Operation α → Bool
  | .feedback _ _ => true
  | _ => false

/-- A restored snapshot replaces all that has been learnt, so what came before no longer counts. -/
def isRestore : Operation α → Bool
  | .restore _ => true
  | _ => false

end Operation

namespace Exact

open Scalar Classifier Operation

section Step

variable {config : Config ℝ}

/-- What an operation takes from a component of the filter of a channel. -/
noncomputable def step (c : Channel) (i : Fin 10) : Operation ℝ → ℝ
  | .adjustFilter d gradient rate =>
    match SlotVector.ofList? gradient with
    | some g => if c = d then rate * g.get i else 0
    | none => 0
  | _ => 0

/-- The masses after an operation that is feedback or leaves them. -/
noncomputable def learnt (config : Config ℝ) (mass : Scores ℝ) : Operation ℝ → Scores ℝ
  | .feedback predicted actual => config.suppression.learn mass predicted actual
  | _ => mass

/-- Real gradients are turned down for their length alone. -/
theorem after_adjustFilter (s : Snapshot ℝ) (d : Channel) (gradient : List ℝ) (rate : ℝ) :
    s.after config (.adjustFilter d gradient rate) =
      match SlotVector.ofList? gradient with
      | some g =>
        { s with
          filters := s.filters.set d ((s.filters.get d).zipWith (fun f g => f - rate * g) g) }
      | none => s := by
  rw [Snapshot.after]
  cases hg : SlotVector.ofList? gradient with
  | some g => rw [adjusted_eq_ok _ _ hg]
  | none =>
    cases hr : ((config.channels.get d).adjusted (s.filters.get d) gradient rate).run.value with
    | ok filter =>
      obtain ⟨g, hg', -⟩ := (ChannelSettings.adjusted_eq_ok_iff ..).mp hr
      rw [hg] at hg'
      cases hg'
    | error fault => rfl

theorem mass_after (s : Snapshot ℝ) {op : Operation ℝ} (h : isRestore op = false) :
    (s.after config op).mass = learnt config s.mass op := by
  cases op with
  | restore t => exact Bool.noConfusion h
  | adjustFilter d gradient rate =>
    rw [after_adjustFilter]
    cases SlotVector.ofList? gradient <;> rfl
  | _ => rfl

/-- An operation takes its step from each component of each filter. -/
theorem get_filters_after (s : Snapshot ℝ) {op : Operation ℝ} (h : isRestore op = false) (c : Channel)
    (i : Fin 10) :
    ((s.after config op).filters.get c).get i = (s.filters.get c).get i - step c i op := by
  cases op with
  | restore t => exact Bool.noConfusion h
  | adjustFilter d gradient rate =>
    rw [after_adjustFilter, step]
    cases SlotVector.ofList? gradient with
    | none => exact (sub_zero _).symm
    | some g =>
      by_cases hc : c = d
      · subst hc
        simp [Vector.get_eq_getElem]
      · simp [hc]
  | _ => exact (sub_zero _).symm

end Step

section Runs

variable {cls : Classifier ℝ} {ops : List (Operation ℝ)}

/-- A filter after a run is what it was without the sum of the steps. -/
theorem get_filters_snapshot_after (h : ∀ op ∈ ops, isRestore op = false) (c : Channel) (i : Fin 10) :
    ((cls.after ops).snapshot.filters.get c).get i =
      (cls.snapshot.filters.get c).get i - (ops.map (step c i)).sum := by
  induction ops generalizing cls with
  | nil => simp
  | cons op ops ih =>
    rw [List.forall_mem_cons] at h
    rw [after_cons, ih h.2, snapshot_perform, get_filters_after _ h.1, List.map_cons, List.sum_cons]
    exact sub_sub _ _ _

/-- The masses after a run are those after its feedback. -/
theorem mass_snapshot_after (h : ∀ op ∈ ops, isRestore op = false) :
    (cls.after ops).snapshot.mass =
      (ops.filter isFeedback).foldl (learnt cls.config) cls.snapshot.mass := by
  induction ops generalizing cls with
  | nil => rfl
  | cons op ops ih =>
    rw [List.forall_mem_cons] at h
    rw [after_cons, ih h.2, snapshot_perform, mass_after _ h.1, config_perform]
    cases op with
    | feedback predicted actual => rfl
    | _ => rfl

/-- Operations may change places as long as nothing is restored and feedback keeps its order: the snapshot in
the end is the same. -/
theorem snapshot_after_reordered (cls : Classifier ℝ) {ops ops' : List (Operation ℝ)}
    (h : ops.Perm ops') (hrestore : ∀ op ∈ ops, isRestore op = false)
    (hfeedback : ops.filter isFeedback = ops'.filter isFeedback) :
    (cls.after ops).snapshot = (cls.after ops').snapshot := by
  have hrestore' : ∀ op ∈ ops', isRestore op = false := fun op hop =>
    hrestore op (h.mem_iff.mpr hop)
  have hmass : (cls.after ops).snapshot.mass = (cls.after ops').snapshot.mass := by
    rw [mass_snapshot_after hrestore, mass_snapshot_after hrestore', hfeedback]
  have hfilters : (cls.after ops).snapshot.filters = (cls.after ops').snapshot.filters := by
    refine PerChannel.ext_get fun c => Vector.ext fun i hi => ?_
    calc ((cls.after ops).snapshot.filters.get c).get ⟨i, hi⟩
        = (cls.snapshot.filters.get c).get ⟨i, hi⟩ - (ops.map (step c ⟨i, hi⟩)).sum :=
          get_filters_snapshot_after hrestore c ⟨i, hi⟩
      _ = (cls.snapshot.filters.get c).get ⟨i, hi⟩ - (ops'.map (step c ⟨i, hi⟩)).sum := by
          rw [(h.map _).sum_eq]
      _ = ((cls.after ops').snapshot.filters.get c).get ⟨i, hi⟩ :=
          (get_filters_snapshot_after hrestore' c ⟨i, hi⟩).symm
  exact congrArg₂ Snapshot.mk hmass hfilters

/-- Two adjustments of one filter and feedback in between, then the feedback first and the adjustments in the
other order. -/
theorem snapshot_after_two_adjustments :
    let cls := ofConfig (Config.default : Config ℝ)
    let near : Operation ℝ := .adjustFilter .balanced (List.replicate 10 0.1) 0.5
    let far : Operation ℝ := .adjustFilter .balanced (List.replicate 10 0.7) 0.5
    let wrong : Operation ℝ := .feedback .greeting .help
    [near, wrong, far].Perm [wrong, far, near] ∧
      (cls.after [near, wrong, far]).snapshot = (cls.after [wrong, far, near]).snapshot := by
  intro cls near far wrong
  have h : ([near] ++ [wrong, far]).Perm ([wrong, far] ++ [near]) := List.perm_append_comm
  refine ⟨h, snapshot_after_reordered cls h ?_ rfl⟩
  simp [near, far, wrong, isRestore]

end Runs

end Exact
end TextIntent
