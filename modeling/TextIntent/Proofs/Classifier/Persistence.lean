import TextIntent.Proofs.Classifier.Run
import TextIntent.Proofs.Config.Accepted
import TextIntent.Proofs.Scores.Bounds

/-! When a classifier can be restored from its own snapshot. Masses are never negative or undefined, but
updates are not checked for overflow: a snapshot can be put back exactly if no update since the last
restored snapshot has left the finite doubles. -/
namespace TextIntent

open Scalar Binary64

namespace Snapshot

/-- All numbers are finite. -/
structure Finite (s : Snapshot Float) : Prop where
  filters : ∀ c, ∀ x ∈ s.filters.get c, x.isFinite = true
  mass : ∀ c, (s.mass.get c).isFinite = true

theorem filterFault?_eq_none_iff (filters : PerChannel (SlotVector Float)) :
    Classifier.filterFault? filters = none ↔
      ∀ c, ∀ x ∈ filters.get c, x.isFinite = true := by
  have hall (c : Channel) : (filters.get c).all Scalar.isFinite = true ↔
      ∀ x ∈ filters.get c, x.isFinite = true := Vector.all_eq_true'
  simp only [Classifier.filterFault?, Option.map_eq_none_iff, List.find?_eq_none, Bool.not_eq_true',
    Bool.not_eq_false, hall]
  exact ⟨fun h c => h c (Channel.mem_all c), fun h c _ => h c⟩

theorem demandMass_eq_ok_iff (mass : Scores Float) :
    (demandMass mass).run.value = .ok () ↔
      ∀ c, (mass.get c).isFinite = true ∧ 0 ≤ mass.get c := by
  have hbad (c : Category) : (if (!Scalar.isFinite (mass.get c)) = true ∨ mass.get c < 0 then
      some (NumericalFault.massInvalid c (mass.get c)) else none) = none ↔
      (mass.get c).isFinite = true ∧ 0 ≤ mass.get c := by
    have hi : Scalar.isFinite (mass.get c) = (mass.get c).isFinite := rfl
    by_cases hf : (mass.get c).isFinite = true
    · have hd := Defined.of_isFinite hf
      simp [hi, hf, zero_le_iff, lt_iff, hd, isNearest_zero.1]
    · simp [hi, hf]
  unfold demandMass
  dsimp only
  split
  · next fault hfs =>
    obtain ⟨c, -, hc⟩ := List.exists_of_findSome?_eq_some hfs
    simp only [Checked.value_run_throw, reduceCtorEq, false_iff]
    intro h
    rw [(hbad c).mpr (h c)] at hc
    cases hc
  · next hfs =>
    simp only [Checked.value_run_pure, true_iff]
    intro c
    exact (hbad c).mp (List.findSome?_eq_none_iff.mp hfs c (Category.mem_all c))

/-- What may be put in place: finite numbers and no negative mass. -/
theorem fault?_eq_none_iff (s : Snapshot Float) :
    s.fault? = none ↔ s.Finite ∧ ∀ c, 0 ≤ s.mass.get c := by
  have hf := filterFault?_eq_none_iff s.filters
  have hm := demandMass_eq_ok_iff s.mass
  unfold fault?
  cases hff : Classifier.filterFault? s.filters with
  | some fault =>
    simp only [hff, reduceCtorEq, false_iff] at hf
    simp only [reduceCtorEq, false_iff]
    exact fun h => hf h.1.filters
  | none =>
    have hff' := hf.mp hff
    cases hmm : (demandMass s.mass).run.value with
    | ok _ =>
      have := hm.mp hmm
      simp only [true_iff]
      exact ⟨⟨hff', fun c => (this c).1⟩, fun c => (this c).2⟩
    | error fault =>
      simp only [hmm, reduceCtorEq, false_iff] at hm
      simp only [reduceCtorEq, false_iff]
      exact fun h => hm fun c => ⟨h.1.mass c, h.2 c⟩

end Snapshot

namespace SuppressionSettings

variable {s : SuppressionSettings Float} {mass : Scores Float}

/-- Feedback keeps masses from being negative or undefined. -/
theorem zero_le_learn (hp : 0 ≤ s.massPenalty) (h : ∀ c, 0 ≤ mass.get c)
    (predicted actual c : Category) : 0 ≤ (s.learn mass predicted actual).get c := by
  unfold learn
  split_ifs with he
  · exact h c
  · simp only [PerCategory.get_modify]
    split_ifs
    · exact zero_le_larger_zero _
    · exact zero_le_larger_zero _
    · exact zero_le_add (h c) hp
    · exact h c

/-- An infinite mass stays infinite. -/
theorem isFinite_of_larger_sub {m r : Float} (hm : 0 ≤ m) (hr : r.isFinite = true)
    (h : (larger (m - r) 0).isFinite = true) : m.isFinite = true := by
  refine (isFinite_or_infinity (defined_of_zero_le hm) (value_nonneg hm)).resolve_right fun hi => ?_
  have hs := unpack_sub_of_infinity hi hr
  have hd : Defined (m - r) := by
    unfold Defined
    rw [hs]
    simp
  have hv : value (m - r) = limit := by
    rw [value, hs, unpackedValue_infinity, signed_positive]
  have hl : larger (m - r) 0 = m - r := by
    unfold larger
    rw [if_neg (by rw [isNaN_iff, not_not]; exact hd), if_neg]
    rw [lt_iff, hv, value_zero]
    exact fun hn => not_lt.mpr limit_pos.le hn.2.2
  rw [hl, isFinite_iff, hv, abs_of_pos limit_pos] at h
  exact lt_irrefl _ h.2

theorem isFinite_of_learn (hr : s.massRelief.isFinite = true) (h : ∀ c, 0 ≤ mass.get c)
    {predicted actual : Category} (c : Category)
    (hf : ((s.learn mass predicted actual).get c).isFinite = true) :
    (mass.get c).isFinite = true := by
  unfold learn at hf
  split_ifs at hf with he
  · exact hf
  · simp only [PerCategory.get_modify] at hf
    split_ifs at hf with h₁ h₂ h₂
    · exact absurd (h₂.symm.trans h₁) he
    · exact isFinite_of_larger_sub (h c) hr hf
    · exact (isFinite_of_add hf).1
    · exact hf

end SuppressionSettings

/-- The operation is an update, and it leaves an infinite or undefined number. -/
def Operation.Overflows (config : Config Float) (s : Snapshot Float) : Operation Float → Prop
  | .adjustFilter c gradient rate => ∃ filter,
      ((config.channels.get c).adjusted (s.filters.get c) gradient rate).run.value = .ok filter ∧
        ∃ x ∈ filter, ¬x.isFinite = true
  | .feedback predicted actual =>
      ∃ c, ¬((config.suppression.learn s.mass predicted actual).get c).isFinite = true
  | _ => False

/-- The operation puts a snapshot in place. -/
def Operation.Restores (op : Operation Float) : Prop := ∃ s, op = .restore s ∧ s.fault? = none

namespace Snapshot

variable {config : Config Float} {s : Snapshot Float}

theorem zero_le_mass_after (h : config.Accepted) (hs : ∀ c, 0 ≤ s.mass.get c)
    (op : Operation Float) (c : Category) : 0 ≤ (s.after config op).mass.get c := by
  cases op with
  | adjustFilter channel gradient rate =>
    simp only [after]
    split
    · exact hs c
    · exact hs c
  | feedback predicted actual =>
    exact SuppressionSettings.zero_le_learn h.massPenalty.2 hs predicted actual c
  | restore t =>
    simp only [after]
    split_ifs with ht
    · exact ((fault?_eq_none_iff t).mp (Option.isNone_iff_eq_none.mp ht)).2 c
    · exact hs c
  | _ => exact hs c

/-- A moved filter is finite only if it was before. -/
theorem finite_after_adjustFilter_iff (c : Channel) (gradient : List Float) (rate : Float) :
    (s.after config (.adjustFilter c gradient rate)).Finite ↔
      s.Finite ∧ ¬(Operation.adjustFilter c gradient rate).Overflows config s := by
  simp only [after, Operation.Overflows]
  cases ha : ((config.channels.get c).adjusted (s.filters.get c) gradient rate).run.value with
  | error fault => simp
  | ok filter =>
    simp only [Except.ok.injEq, exists_eq_left', not_exists, not_and, not_not]
    constructor
    · intro hf
      have hfilter : ∀ x ∈ filter, x.isFinite = true := by
        simpa using hf.filters c
      obtain ⟨g, -, -, -, rfl⟩ := (ChannelSettings.adjusted_eq_ok_iff _ _ _ _ _).mp ha
      refine ⟨⟨fun d x hx => ?_, hf.mass⟩, hfilter⟩
      by_cases hd : d = c
      · subst hd
        obtain ⟨i, hi, rfl⟩ := Vector.mem_iff_getElem.mp hx
        have hnew := hfilter _ (Vector.getElem_mem hi)
        rw [Vector.getElem_zipWith] at hnew
        exact (isFinite_of_sub hnew).1
      · exact hf.filters d x (by simpa [hd] using hx)
    · rintro ⟨hs, hfilter⟩
      refine ⟨fun d x hx => ?_, hs.mass⟩
      by_cases hd : d = c
      · exact hfilter x (by simpa [hd] using hx)
      · exact hs.filters d x (by simpa [hd] using hx)

/-- Feedback does not mend an infinite mass. -/
theorem finite_after_feedback_iff (h : config.Accepted) (hs : ∀ c, 0 ≤ s.mass.get c)
    (predicted actual : Category) :
    (s.after config (.feedback predicted actual)).Finite ↔
      s.Finite ∧ ¬(Operation.feedback predicted actual).Overflows config s := by
  simp only [after, Operation.Overflows, not_exists, not_not]
  constructor
  · intro hf
    exact ⟨⟨hf.filters, fun c =>
      SuppressionSettings.isFinite_of_learn h.massRelief.1 hs c (hf.mass c)⟩, hf.mass⟩
  · rintro ⟨hs, hl⟩
    exact ⟨hs.filters, hl⟩

/-- What one operation does to finiteness. -/
theorem finite_after_iff (h : config.Accepted) (hs : ∀ c, 0 ≤ s.mass.get c)
    (op : Operation Float) :
    (s.after config op).Finite ↔ op.Restores ∨ s.Finite ∧ ¬op.Overflows config s := by
  cases op with
  | adjustFilter c gradient rate =>
    have hr : ¬(Operation.adjustFilter c gradient rate).Restores := by
      rintro ⟨_, ⟨⟩, -⟩
    rw [finite_after_adjustFilter_iff]
    simp only [hr, false_or]
  | feedback predicted actual =>
    have hr : ¬(Operation.feedback predicted actual).Restores := by
      rintro ⟨_, ⟨⟩, -⟩
    rw [finite_after_feedback_iff h hs]
    simp only [hr, false_or]
  | restore t =>
    have hr : (Operation.restore t).Restores ↔ t.fault? = none :=
      ⟨by rintro ⟨_, ⟨⟩, ht⟩; exact ht, fun ht => ⟨t, rfl, ht⟩⟩
    simp only [hr, after, Operation.Overflows, not_false_eq_true, and_true]
    cases ht : t.fault? with
    | none => simpa using ((fault?_eq_none_iff t).mp ht).1
    | some fault => simp
  | _ => simp [after, Operation.Overflows, Operation.Restores]

end Snapshot

namespace Config

/-- Either nothing has happened and the filters started out finite, or the last of the operations has
put a snapshot in place. -/
def Settled (config : Config Float) (ops : List (Operation Float)) : Prop :=
  (ops = [] ∧ (Classifier.ofConfig config).snapshot.Finite) ∨
    ∃ earlier op, ops = earlier ++ [op] ∧ op.Restores

variable {config : Config Float}

theorem snapshot_after_concat (ops : List (Operation Float)) (op : Operation Float) :
    ((Classifier.ofConfig config).after (ops ++ [op])).snapshot =
      ((Classifier.ofConfig config).after ops).snapshot.after config op := by
  rw [Classifier.after_concat, Classifier.snapshot_perform, Classifier.config_after]
  rfl

theorem zero_le_mass_after (h : config.Accepted) (ops : List (Operation Float)) (c : Category) :
    0 ≤ ((Classifier.ofConfig config).after ops).snapshot.mass.get c := by
  induction ops using List.reverseRecOn generalizing c with
  | nil =>
    exact PerCategory.zero_le_get_zero c
  | append_singleton ops op ih =>
    rw [snapshot_after_concat]
    exact Snapshot.zero_le_mass_after h ih op c

/-- No update has overflowed since the classifier was made or last restored. -/
def Intact (config : Config Float) (ops : List (Operation Float)) : Prop :=
  ∃ before rest, ops = before ++ rest ∧ config.Settled before ∧
    ∀ done op todo, rest = done ++ op :: todo →
      ¬op.Overflows config ((Classifier.ofConfig config).after (before ++ done)).snapshot

theorem intact_nil_iff :
    config.Intact [] ↔ (Classifier.ofConfig config).snapshot.Finite := by
  constructor
  · rintro ⟨before, rest, hsplit, hb, -⟩
    obtain ⟨rfl, rfl⟩ := List.append_eq_nil_iff.mp hsplit.symm
    rcases hb with ⟨-, hf⟩ | ⟨earlier, op, hn, -⟩
    · exact hf
    · simp at hn
  · intro hf
    refine ⟨[], [], rfl, Or.inl ⟨rfl, hf⟩, ?_⟩
    intro done op todo hn
    simp at hn

theorem Intact.concat {ops : List (Operation Float)} {op : Operation Float} (h : config.Intact ops)
    (ho : ¬op.Overflows config ((Classifier.ofConfig config).after ops).snapshot) :
    config.Intact (ops ++ [op]) := by
  obtain ⟨before, rest, rfl, hb, hall⟩ := h
  refine ⟨before, rest ++ [op], by simp, hb, fun done o todo hsplit => ?_⟩
  rcases List.eq_nil_or_concat todo with rfl | ⟨todo, last, rfl⟩
  · obtain ⟨rfl, hlast⟩ := List.append_inj' hsplit rfl
    cases hlast
    exact ho
  · rw [List.concat_eq_append, ← List.cons_append, ← List.append_assoc] at hsplit
    exact hall done o todo (List.append_inj' hsplit rfl).1

theorem intact_concat_iff (ops : List (Operation Float)) (op : Operation Float) :
    config.Intact (ops ++ [op]) ↔ op.Restores ∨ config.Intact ops ∧
      ¬op.Overflows config ((Classifier.ofConfig config).after ops).snapshot := by
  constructor
  · rintro ⟨before, rest, hsplit, hb, hall⟩
    rcases List.eq_nil_or_concat rest with rfl | ⟨rest, last, rfl⟩
    · rw [List.append_nil] at hsplit
      subst hsplit
      rcases hb with ⟨hn, -⟩ | ⟨earlier, o, ho, hr⟩
      · simp at hn
      · obtain ⟨-, hlast⟩ := List.append_inj' ho rfl
        cases hlast
        exact Or.inl hr
    · rw [List.concat_eq_append, ← List.append_assoc] at hsplit
      obtain ⟨rfl, hlast⟩ := List.append_inj' hsplit rfl
      cases hlast
      rw [List.concat_eq_append] at hall
      refine Or.inr ⟨⟨before, rest, rfl, hb, fun done o todo hr => ?_⟩, hall rest op [] rfl⟩
      exact hall done o (todo ++ [op]) (by rw [hr]; simp)
  · rintro (hr | ⟨hi, ho⟩)
    · refine ⟨ops ++ [op], [], by simp, Or.inr ⟨ops, op, rfl, hr⟩, ?_⟩
      intro done op todo hn
      simp at hn
    · exact hi.concat ho

/-- A run leaves finite numbers exactly if no update has overflowed since the classifier was made or
last restored. -/
theorem finite_snapshot_after_iff (h : config.Accepted) (ops : List (Operation Float)) :
    ((Classifier.ofConfig config).after ops).snapshot.Finite ↔ config.Intact ops := by
  induction ops using List.reverseRecOn with
  | nil => exact intact_nil_iff.symm
  | append_singleton ops op ih =>
    rw [snapshot_after_concat, Snapshot.finite_after_iff h (zero_le_mass_after h ops) op, ih,
      intact_concat_iff]

/-- Restoring a classifier from its own snapshot. It never changes the snapshot, and no mass is ever
negative or undefined; but it is turned down after an update that has overflowed, until a snapshot is
restored in between. -/
theorem restore_own_snapshot (h : config.Accepted) (ops : List (Operation Float)) :
    let cls := (Classifier.ofConfig config).after ops
    let restored := (cls.perform (.restore cls.snapshot)).value
    restored.2.snapshot = cls.snapshot ∧ (∀ c, 0 ≤ cls.snapshot.mass.get c) ∧
      (restored.1 = .done ↔ cls.snapshot.Finite) ∧
      (cls.snapshot.Finite ↔ ∃ before rest, ops = before ++ rest ∧ config.Settled before ∧
        ∀ done op todo, rest = done ++ op :: todo →
          ¬op.Overflows config ((Classifier.ofConfig config).after (before ++ done)).snapshot) := by
  intro cls restored
  have hm := zero_le_mass_after h ops
  refine ⟨?_, hm, ?_, finite_snapshot_after_iff h ops⟩
  · change (cls.perform (.restore cls.snapshot)).value.2.snapshot = _
    rw [Classifier.snapshot_perform, Snapshot.after, ite_self]
  · rw [Classifier.perform_restore_eq_done_iff, Snapshot.fault?_eq_none_iff]
    exact and_iff_left hm

theorem default_snapshot_finite :
    (Classifier.ofConfig (Config.default : Config Float)).snapshot.Finite := by
  constructor
  · have h : Classifier.filterFault?
        (Classifier.ofConfig (Config.default : Config Float)).snapshot.filters = none := by
      decide +kernel
    exact (Snapshot.filterFault?_eq_none_iff _).mp h
  · intro c
    cases c <;> rfl

/-- A wrong prediction does not get in the way of restoring. -/
theorem restore_own_snapshot_after_feedback :
    let cls := (Classifier.ofConfig (Config.default : Config Float)).after
      [.feedback .greeting .status]
    (cls.perform (.restore cls.snapshot)).value.1 = .done := by
  obtain ⟨-, -, hdone, hfinite⟩ :=
    restore_own_snapshot default_accepted [.feedback .greeting .status]
  refine hdone.mpr (hfinite.mpr ⟨[], _, rfl, Or.inl ⟨rfl, default_snapshot_finite⟩, ?_⟩)
  intro done op todo hsplit
  obtain ⟨rfl, rfl, rfl⟩ : done = [] ∧ op = .feedback .greeting .status ∧ todo = [] := by
    cases done with
    | nil => simpa [eq_comm] using hsplit
    | cons _ done => simp at hsplit
  have hm : Category.all.all (fun c => (((Config.default : Config Float).suppression.learn
      (Classifier.ofConfig (Config.default : Config Float)).snapshot.mass .greeting .status).get
        c).isFinite) = true := by decide +kernel
  rintro ⟨c, hc⟩
  exact hc (List.all_eq_true.mp hm c (Category.mem_all c))

/-- The filters are set to zero, and one of them is moved by ten times `1e308`. -/
def overflowingUpdate : List (Operation Float) :=
  [.restore ⟨PerCategory.zero, PerChannel.ofFn fun _ => SlotVector.zero⟩,
    .adjustFilter .balanced [1e308, 0, 0, 0, 0, 0, 0, 0, 0, 0] 10]

/-- The update is made, and the snapshot after it is turned down. -/
theorem own_snapshot_turned_down :
    let cls := (Classifier.ofConfig (Config.default : Config Float)).after overflowingUpdate
    (Config.default : Config Float).Accepted ∧
      (cls.perform (.restore cls.snapshot)).value.1 =
        .failed (.numerical (.filterNotFinite .balanced)) := by
  intro cls
  have hf : cls.snapshot.fault? = some (.numerical (.filterNotFinite .balanced)) := by
    decide +kernel
  refine ⟨default_accepted, ?_⟩
  simp only [Classifier.value_perform_restore, hf]

end Config
end TextIntent
