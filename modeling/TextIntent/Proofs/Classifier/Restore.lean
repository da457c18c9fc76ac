import TextIntent.Proofs.Classifier.Persistence

/-! Restoring a classifier from any snapshot: all of it is put in place or nothing is. A refusal names
a filter or a mass that is out of order. -/
namespace TextIntent

namespace Snapshot

variable {s : Snapshot Float}

theorem exists_of_filterFault? {filters : PerChannel (SlotVector Float)}
    {fault : NumericalFault Float} (h : Classifier.filterFault? filters = some fault) :
    ∃ c, fault = .filterNotFinite c ∧ ∃ x ∈ filters.get c, ¬x.isFinite = true := by
  obtain ⟨c, hc, rfl⟩ := Option.map_eq_some_iff.mp h
  have hbad : (!(filters.get c).all Scalar.isFinite) = true :=
    List.find?_some (p := fun c => !(filters.get c).all Scalar.isFinite) hc
  refine ⟨c, rfl, ?_⟩
  by_contra hn
  push Not at hn
  have hall : (filters.get c).all Scalar.isFinite = true := Vector.all_eq_true'.mpr hn
  simp [hall] at hbad

theorem exists_of_demandMass {mass : Scores Float} {fault : Fault Float}
    (h : (demandMass mass).run.value = .error fault) :
    ∃ c, fault = .numerical (.massInvalid c (mass.get c)) ∧
      ¬((mass.get c).isFinite = true ∧ 0 ≤ mass.get c) := by
  unfold demandMass at h
  dsimp only at h
  split at h
  · next found hfound =>
    obtain ⟨c, -, hc⟩ := List.exists_of_findSome?_eq_some hfound
    obtain ⟨hbad, hc⟩ := Option.ite_none_right_eq_some.mp hc
    cases hc
    cases h
    refine ⟨c, rfl, fun hok => ?_⟩
    rcases hbad with hinf | hneg
    · change (!(mass.get c).isFinite) = true at hinf
      simp [hok.1] at hinf
    · have hle := Binary64.value_nonneg hok.2
      rw [Binary64.lt_iff, Binary64.value_zero] at hneg
      exact absurd hneg.2.2 (not_lt.mpr hle)
  · cases h

/-- A fault of a snapshot points at a filter that is not finite or at a mass that is not finite or
negative. -/
theorem exists_of_fault? {fault : Fault Float} (h : s.fault? = some fault) :
    (∃ c, fault = .numerical (.filterNotFinite c) ∧
        ∃ x ∈ s.filters.get c, ¬x.isFinite = true) ∨
      ∃ c, fault = .numerical (.massInvalid c (s.mass.get c)) ∧
        ¬((s.mass.get c).isFinite = true ∧ 0 ≤ s.mass.get c) := by
  unfold fault? at h
  split at h
  · next found hfound =>
    cases h
    obtain ⟨c, rfl, hc⟩ := exists_of_filterFault? hfound
    exact Or.inl ⟨c, rfl, hc⟩
  · split at h
    · cases h
    · next found hfound =>
      cases h
      exact Or.inr (exists_of_demandMass hfound)

end Snapshot

namespace Classifier

/-- A snapshot is put in place exactly if its filters are finite and its masses are finite and not
negative; the counters stay. Otherwise nothing at all has changed, although writes before a fault
would stay, and the fault points at what is wrong. -/
theorem restore_all_or_nothing (cls : Classifier Float) (s : Snapshot Float) :
    let after := ((restore s).run.run cls).value
    (after.1 = .ok () ↔ (∀ c, ∀ x ∈ s.filters.get c, x.isFinite = true) ∧
        ∀ c, (s.mass.get c).isFinite = true ∧ 0 ≤ s.mass.get c) ∧
      (after.1 = .ok () → after.2.snapshot = s ∧ after.2.counters = cls.counters ∧
        after.2.config = cls.config) ∧
      (after.1 ≠ .ok () → after.2 = cls ∧
        ((∃ c, after.1 = .error (.numerical (.filterNotFinite c)) ∧
            ∃ x ∈ s.filters.get c, ¬x.isFinite = true) ∨
          ∃ c, after.1 = .error (.numerical (.massInvalid c (s.mass.get c))) ∧
            ¬((s.mass.get c).isFinite = true ∧ 0 ≤ s.mass.get c))) := by
  intro after
  have hafter : after = _ := outcome_restore s cls
  have hok := Snapshot.fault?_eq_none_iff s
  cases hs : s.fault? with
  | none =>
    rw [hs] at hafter
    obtain ⟨hfinite, hmass⟩ := hok.mp hs
    rw [hafter]
    refine ⟨iff_of_true rfl ⟨hfinite.filters, fun c => ⟨hfinite.mass c, hmass c⟩⟩, fun _ => ?_,
      fun hn => absurd rfl hn⟩
    refine ⟨snapshot_setFilters cls s, PerChannel.ext_get fun c => ?_, rfl⟩
    simp [counters, Gates.counters, Gates.setFilters]
  | some fault =>
    have hfault : after.1 = .error fault := by rw [hafter, hs]
    have hne : (Except.error fault : Except (Fault Float) Unit) ≠ .ok () := by simp
    rw [hfault]
    refine ⟨iff_of_false hne fun h => ?_, fun h => absurd h hne, fun _ => ?_⟩
    · have hnone := hok.mpr ⟨⟨h.1, fun c => (h.2 c).1⟩, fun c => (h.2 c).2⟩
      rw [hs] at hnone
      cases hnone
    · -- whatever the bad value is, the check that finds it comes before all writes
      refine ⟨allOrNothing_restore s cls fault hfault, ?_⟩
      rcases Snapshot.exists_of_fault? hs with ⟨c, rfl, hc⟩ | ⟨c, rfl, hc⟩
      · exact Or.inl ⟨c, rfl, hc⟩
      · exact Or.inr ⟨c, rfl, hc⟩

end Classifier
end TextIntent
