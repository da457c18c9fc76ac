import Mathlib
import TextIntent.Proofs.Classifier.Action

/-! Runs of operations: which operations answer with a decision, and what an operation does to the
snapshot of a classifier. Nothing but the snapshot and the settings goes into the next snapshot. -/
namespace TextIntent

namespace Checked

variable {α β γ : Type}

@[simp] theorem value_run_pure (x : β) : (pure x : Checked α β).run.value = .ok x := rfl

@[simp] theorem value_run_throw (fault : Fault α) :
    (throw fault : Checked α β).run.value = .error fault := rfl

@[simp] theorem value_run_lift (x : Traced (Event α) β) :
    (ExceptT.lift x : Checked α β).run.value = .ok x.value := rfl

@[simp] theorem value_run_report (e : Event α) : (report e).run.value = .ok () := rfl

/-- A fault ends the computation. -/
theorem value_run_bind (x : Checked α β) (f : β → Checked α γ) :
    (x >>= f).run.value = match x.run.value with
      | .ok b => (f b).run.value
      | .error fault => .error fault := by
  rw [ExceptT.run_bind, Traced.value_bind]
  cases x.run.value <;> rfl

theorem value_run_bind_eq_ok {x : Checked α β} {f : β → Checked α γ} {c : γ} :
    (x >>= f).run.value = .ok c ↔ ∃ b, x.run.value = .ok b ∧ (f b).run.value = .ok c := by
  rw [value_run_bind]
  cases x.run.value with
  | ok b => simp
  | error fault => simp

end Checked

variable {α : Type} [Scalar α]

omit [Scalar α] in
theorem value_run_demandLength (expected actual : Nat) :
    (demandLength expected actual : Checked α Unit).run.value =
      if expected = actual then .ok () else .error (.length expected actual) := by
  unfold demandLength
  split <;> rfl

omit [Scalar α] in
theorem SlotVector.ofList?_eq_none_iff (xs : List α) :
    SlotVector.ofList? xs = none ↔ xs.length ≠ 10 := by
  unfold SlotVector.ofList?
  split
  · next h => simp [h]
  · next h => simp [h]

omit [Scalar α] in
theorem SlotVector.length_of_ofList? {xs : List α} {v : SlotVector α}
    (h : SlotVector.ofList? xs = some v) : xs.length = 10 := by
  by_contra hn
  rw [(SlotVector.ofList?_eq_none_iff xs).mpr hn] at h
  cases h

/-- No first fault is found if no member has one, wherever it stands. -/
theorem findSome?_mapIdx_eq_none_iff {β γ : Type} (xs : List β) {f : Nat → β → Option γ}
    {p : β → Prop} (h : ∀ i x, f i x = none ↔ p x) :
    (xs.mapIdx f).findSome? id = none ↔ ∀ x ∈ xs, p x := by
  simp only [List.findSome?_eq_none_iff, List.mem_mapIdx]
  constructor
  · intro hn x hx
    obtain ⟨i, hi, rfl⟩ := List.mem_iff_getElem.mp hx
    exact (h i _).mp (hn _ ⟨i, hi, rfl⟩)
  · rintro hall _ ⟨i, hi, rfl⟩
    exact (h i _).mpr (hall _ (List.getElem_mem hi))

/-- Filters are moved by gradients of ten finite numbers at a finite rate, and only by these. -/
theorem ChannelSettings.adjusted_eq_ok_iff (s : ChannelSettings α) (filter f : SlotVector α)
    (gradient : List α) (rate : α) :
    (s.adjusted filter gradient rate).run.value = .ok f ↔
      ∃ g, SlotVector.ofList? gradient = some g ∧ Scalar.isFinite rate = true ∧
        (∀ x ∈ gradient, Scalar.isFinite x = true) ∧
        f = filter.zipWith (fun f g => f - rate * g) g := by
  have hfault := findSome?_mapIdx_eq_none_iff gradient
    (f := fun i g => if Scalar.isFinite g = true then none
      else some (NumericalFault.gradientNotFinite i g))
    (p := fun x => Scalar.isFinite x = true) (fun i x => by simp)
  unfold adjusted
  simp only [Checked.value_run_bind_eq_ok, value_run_demandLength]
  cases hg : SlotVector.ofList? gradient with
  | none =>
    have hl := (SlotVector.ofList?_eq_none_iff gradient).mp hg
    simp [hl.symm]
  | some g =>
    have hl := SlotVector.length_of_ofList? hg
    by_cases hr : Scalar.isFinite rate = true
    · generalize (gradient.mapIdx fun i g => if Scalar.isFinite g = true then none
          else some (NumericalFault.gradientNotFinite i g)).findSome? id = found at *
      cases found with
      | none =>
        have hall := hfault.mp rfl
        constructor
        · rintro ⟨_, -, h⟩
          simp only [hr, Bool.not_true, Bool.false_eq_true, if_false] at h
          exact ⟨g, rfl, hr, hall, (Except.ok.inj h).symm⟩
        · rintro ⟨g', hg', -, -, rfl⟩
          cases hg'
          refine ⟨(), if_pos hl.symm, ?_⟩
          simp only [hr, Bool.not_true, Bool.false_eq_true, if_false]
          rfl
      | some fault =>
        simp only [reduceCtorEq, false_iff] at hfault
        simp only [hl, hr, Bool.not_true, Bool.false_eq_true, if_true, if_false, hfault, false_and,
          and_false, exists_false, iff_false]
        rintro ⟨_, -, h⟩
        simp at h
    · simp [hl, hr]

theorem Signature.componentFault?_eq_none_iff (i : Nat) (x : α) :
    componentFault? i x = none ↔ Scalar.isFinite x = true ∧ ¬x < 0 := by
  unfold componentFault?
  by_cases hf : Scalar.isFinite x = true
  · by_cases hn : x < 0
    · simp [hf, hn]
    · simp [hf, hn]
  · simp [hf]

/-- Signatures of ten finite numbers that are not negative are taken, and only these. -/
theorem Signature.ofList_eq_ok_iff (xs : List α) (v : SlotVector α) :
    (Signature.ofList xs).run.value = .ok v ↔
      ∃ w, SlotVector.ofList? xs = some w ∧
        (∀ x ∈ xs, Scalar.isFinite x = true ∧ ¬x < 0) ∧ v = w.normalize := by
  have hfault := findSome?_mapIdx_eq_none_iff xs (componentFault?_eq_none_iff (α := α))
  unfold ofList
  simp only [Checked.value_run_bind_eq_ok, value_run_demandLength]
  cases hw : SlotVector.ofList? xs with
  | none =>
    have hl := (SlotVector.ofList?_eq_none_iff xs).mp hw
    simp [hl.symm]
  | some w =>
    have hl := SlotVector.length_of_ofList? hw
    generalize (xs.mapIdx componentFault?).findSome? id = found at *
    cases found with
    | none =>
      have hall := hfault.mp rfl
      constructor
      · rintro ⟨_, -, h⟩
        exact ⟨w, rfl, hall, (Except.ok.inj h).symm⟩
      · rintro ⟨w', hw', -, rfl⟩
        cases hw'
        exact ⟨(), if_pos hl.symm, rfl⟩
    | some fault =>
      simp only [reduceCtorEq, false_iff] at hfault
      simp only [hfault, false_and, and_false, exists_false, iff_false]
      rintro ⟨_, -, h⟩
      simp at h

/-- A vector that is taken raises no event on the way. -/
theorem Signature.ofList_toList (v : SlotVector α)
    (h : ∀ x ∈ v.toList, Scalar.isFinite x = true ∧ ¬x < 0) :
    Signature.ofList v.toList = pure v.normalize := by
  have hfault := (findSome?_mapIdx_eq_none_iff v.toList
    (componentFault?_eq_none_iff (α := α))).mpr h
  have hlength : (demandLength 10 v.toList.length : Checked α Unit) = pure () := by
    rw [demandLength, if_pos v.length_toList.symm]
  rw [ofList, hlength, pure_bind, hfault, SlotVector.ofList?_toList]

/-- The text in small letters and the signature that an operation wants a decision on. -/
def Operation.question? (config : Config α) : Operation α → Option (String × SlotVector α)
  | .classify text =>
    let lower := Text.lower text
    some (lower, Signature.ofLower config.features lower)
  | .classifyWith text signature =>
    match (Signature.ofList signature).run.value with
    | .ok v => some (Text.lower text, v)
    | .error _ => none
  | _ => none

namespace Classifier

/-- The classifier after some operations. -/
def after (cls : Classifier α) (ops : List (Operation α)) : Classifier α :=
  (cls.performAll ops).value.2

@[simp] theorem after_nil (cls : Classifier α) : cls.after [] = cls := rfl

theorem after_cons (cls : Classifier α) (op : Operation α) (ops : List (Operation α)) :
    cls.after (op :: ops) = (cls.perform op).value.2.after ops := rfl

theorem after_append (cls : Classifier α) (ops rest : List (Operation α)) :
    cls.after (ops ++ rest) = (cls.after ops).after rest := by
  induction ops generalizing cls with
  | nil => rfl
  | cons op ops ih => exact ih (cls.perform op).value.2

theorem after_concat (cls : Classifier α) (ops : List (Operation α)) (op : Operation α) :
    cls.after (ops ++ [op]) = ((cls.after ops).perform op).value.2 := by
  rw [after_append]
  rfl

theorem value_perform_classifyWith (cls : Classifier α) (text : String) (signature : List α) :
    (cls.perform (.classifyWith text signature)).value =
      match (Signature.ofList signature).run.value with
      | .ok v => (.decided (cls.run (Text.lower text) v).value.1,
          (cls.run (Text.lower text) v).value.2)
      | .error fault => (.failed fault, cls) := by
  change (cls.answer (classifyWith text signature) .decided).value = _
  rw [value_answer, outcome_classifyWith]
  cases (Signature.ofList signature).run.value with
  | ok v => rfl
  | error fault => rfl

theorem value_perform_adjustFilter (cls : Classifier α) (c : Channel) (gradient : List α)
    (rate : α) :
    (cls.perform (.adjustFilter c gradient rate)).value =
      match ((cls.config.channels.get c).adjusted (cls.gates.get c).filter gradient
          rate).run.value with
      | .ok filter => (.done, { cls with gates := cls.gates.setFilter c filter })
      | .error fault => (.failed fault, cls) := by
  change (cls.answer (adjustFilter c gradient rate) fun _ => .done).value = _
  rw [value_answer, outcome_adjustFilter]
  cases ((cls.config.channels.get c).adjusted (cls.gates.get c).filter gradient rate).run.value with
  | ok filter => rfl
  | error fault => rfl

/-- Decisions answer to questions, and to every question there is one. -/
theorem perform_eq_decided_iff (cls : Classifier α) (op : Operation α) (d : Decision α) :
    (cls.perform op).value.1 = .decided d ↔
      ∃ lower signature, op.question? cls.config = some (lower, signature) ∧
        d = (cls.config.decision cls.matrix cls.gates cls.mass lower signature).value := by
  cases op with
  | classify text =>
    simp only [Operation.question?, Option.some.injEq, Prod.mk.injEq]
    constructor
    · intro h
      exact ⟨_, _, ⟨rfl, rfl⟩, (Reply.decided.inj h).symm⟩
    · rintro ⟨_, _, ⟨rfl, rfl⟩, rfl⟩
      rfl
  | classifyWith text signature =>
    simp only [value_perform_classifyWith, Operation.question?]
    cases (Signature.ofList signature).run.value with
    | ok v =>
      simp only [Option.some.injEq, Prod.mk.injEq]
      constructor
      · intro h
        exact ⟨_, _, ⟨rfl, rfl⟩, (Reply.decided.inj h).symm⟩
      · rintro ⟨_, _, ⟨rfl, rfl⟩, rfl⟩
        rfl
    | error fault => simp
  | adjustFilter c gradient rate =>
    simp only [perform, value_answer, Operation.question?]
    split <;> simp
  | restore s =>
    simp only [perform, value_answer, Operation.question?]
    split <;> simp
  | _ => simp [perform, Operation.question?]

end Classifier

namespace Snapshot

/-- The snapshot after an operation. -/
def after (config : Config α) (s : Snapshot α) : Operation α → Snapshot α
  | .adjustFilter c gradient rate =>
    match ((config.channels.get c).adjusted (s.filters.get c) gradient rate).run.value with
    | .ok filter => { s with filters := s.filters.set c filter }
    | .error _ => s
  | .feedback predicted actual =>
    { s with mass := config.suppression.learn s.mass predicted actual }
  | .restore t => if t.fault?.isNone then t else s
  | _ => s

end Snapshot

namespace Classifier

/-- A snapshot without a fault is put in place, the counters stay; any other leaves everything as it
was. -/
theorem value_perform_restore (cls : Classifier α) (s : Snapshot α) :
    (cls.perform (.restore s)).value = match s.fault? with
      | some fault => (.failed fault, cls)
      | none => (.done, { cls with mass := s.mass, gates := cls.gates.setFilters s.filters }) := by
  change (cls.answer (restore s) fun _ => .done).value = _
  rw [value_answer, outcome_restore]
  cases s.fault? with
  | some fault => rfl
  | none => rfl

theorem perform_restore_eq_done_iff (cls : Classifier α) (s : Snapshot α) :
    (cls.perform (.restore s)).value.1 = .done ↔ s.fault? = none := by
  rw [value_perform_restore]
  cases s.fault? <;> simp

theorem snapshot_setFilters (cls : Classifier α) (s : Snapshot α) :
    ({ cls with mass := s.mass, gates := cls.gates.setFilters s.filters } : Classifier α).snapshot =
      s := by
  refine congrArg (Snapshot.mk s.mass) (PerChannel.ext_get fun c => ?_)
  simp [Gates.filters, Gates.setFilters]

theorem snapshot_setFilter (cls : Classifier α) (c : Channel) (filter : SlotVector α) :
    ({ cls with gates := cls.gates.setFilter c filter } : Classifier α).snapshot =
      { cls.snapshot with filters := cls.snapshot.filters.set c filter } := by
  refine congrArg (Snapshot.mk cls.mass) (PerChannel.ext_get fun d => ?_)
  by_cases h : d = c
  · simp [snapshot, Gates.filters, Gates.setFilter, h]
  · simp [snapshot, Gates.filters, Gates.setFilter, h]

theorem value_feedback (s : SuppressionSettings α) (mass : Scores α)
    (predicted actual : Category) :
    (s.feedback mass predicted actual).value = s.learn mass predicted actual := by
  unfold SuppressionSettings.feedback
  by_cases h : predicted = actual
  · simp [h]
  · simp [h]

/-- Deciding counts activations and leaves the snapshot as it is. -/
theorem snapshot_run (cls : Classifier α) (lower : String) (signature : SlotVector α) :
    (cls.run lower signature).value.2.snapshot = cls.snapshot := by
  refine congrArg (Snapshot.mk cls.mass) (PerChannel.ext_get fun c => ?_)
  simp [run, Gates.filters, Gates.count, Gate.count]

/-- An operation changes the snapshot as `Snapshot.after` says. -/
theorem snapshot_perform (cls : Classifier α) (op : Operation α) :
    (cls.perform op).value.2.snapshot = cls.snapshot.after cls.config op := by
  cases op with
  | classify text =>
    simp only [perform, classify, Traced.value_bind, Traced.value_pure, snapshot_run,
      Snapshot.after]
  | classifyWith text signature =>
    simp only [value_perform_classifyWith, Snapshot.after]
    cases (Signature.ofList signature).run.value with
    | ok v => simp only [snapshot_run]
    | error fault => rfl
  | adjustFilter c gradient rate =>
    have hf : cls.snapshot.filters.get c = (cls.gates.get c).filter := by
      simp [snapshot, Gates.filters]
    simp only [value_perform_adjustFilter, Snapshot.after, hf]
    cases ((cls.config.channels.get c).adjusted (cls.gates.get c).filter gradient rate).run.value with
    | ok filter => exact snapshot_setFilter cls c filter
    | error fault => rfl
  | feedback predicted actual =>
    exact congrArg (Snapshot.mk · cls.gates.filters)
      (value_feedback cls.config.suppression cls.mass predicted actual)
  | restore s =>
    simp only [value_perform_restore, Snapshot.after]
    cases s.fault? with
    | none => exact snapshot_setFilters cls s
    | some fault => rfl
  | _ => rfl

/-- No operation changes the settings. -/
theorem config_perform (cls : Classifier α) (op : Operation α) :
    (cls.perform op).value.2.config = cls.config := by
  cases op with
  | classifyWith text signature =>
    rw [value_perform_classifyWith]
    cases (Signature.ofList signature).run.value <;> rfl
  | adjustFilter c gradient rate =>
    rw [value_perform_adjustFilter]
    cases ((cls.config.channels.get c).adjusted (cls.gates.get c).filter gradient rate).run.value <;>
      rfl
  | restore s =>
    rw [value_perform_restore]
    cases s.fault? <;> rfl
  | _ => rfl

@[simp] theorem config_after (cls : Classifier α) (ops : List (Operation α)) :
    (cls.after ops).config = cls.config := by
  induction ops generalizing cls with
  | nil => rfl
  | cons op ops ih => rw [after_cons, ih, config_perform]

/-- Reachable classifiers have the settings they were made with. -/
theorem Reachable.config_eq {config : Config α} {cls : Classifier α} (h : Reachable config cls) :
    cls.config = config := by
  obtain ⟨ops, rfl⟩ := h
  exact config_after (ofConfig config) ops

/-- The decisions of reachable classifiers. -/
theorem Reachable.decided_iff {config : Config α} {cls : Classifier α} (h : Reachable config cls)
    (op : Operation α) (d : Decision α) :
    (cls.perform op).value.1 = .decided d ↔
      ∃ lower signature, op.question? config = some (lower, signature) ∧
        d = (config.decision cls.matrix cls.gates cls.mass lower signature).value := by
  rw [perform_eq_decided_iff, h.config_eq]

end Classifier
end TextIntent
