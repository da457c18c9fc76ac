import TextIntent.Config.Default
import TextIntent.Proofs.RealValued

/-! What acceptance says about the numbers of a configuration. -/
namespace TextIntent

open Scalar Binary64

section Demands

variable {q : Quantity} {x : Float}

theorem demandFinite_eq_none : demandFinite q x = none ↔ x.isFinite = true :=
  RealValued.demandFinite_eq_none

theorem demandNonnegative_eq_none :
    demandNonnegative q x = none ↔ x.isFinite = true ∧ 0 ≤ x :=
  RealValued.demandNonnegative_eq_none

theorem demandPositive_eq_none : demandPositive q x = none ↔ x.isFinite = true ∧ 0 < x :=
  RealValued.demandPositive_eq_none

end Demands

namespace Config.Accepted

variable {config : Config Float}

theorem nonnegative (h : config.Accepted) (q : Quantity) {x : Float}
    (hm : demandNonnegative q x ∈ config.checks) : x.isFinite = true ∧ 0 ≤ x :=
  demandNonnegative_eq_none.mp (accepted_iff.mp h _ hm)

theorem positive (h : config.Accepted) (q : Quantity) {x : Float}
    (hm : demandPositive q x ∈ config.checks) : x.isFinite = true ∧ 0 < x :=
  demandPositive_eq_none.mp (accepted_iff.mp h _ hm)

theorem slotWeight (h : config.Accepted) {slot : Slot Float} (hs : slot ∈ config.features.slots) :
    slot.weight.isFinite = true ∧ 0 ≤ slot.weight := by
  obtain ⟨i, hi, rfl⟩ := List.mem_iff_getElem.mp hs
  refine h.nonnegative (.slotWeight i) ?_
  have hm : demandNonnegative (.slotWeight i) (config.features.slots[i]).weight ∈
      config.features.slots.mapIdx (fun i slot => demandNonnegative (.slotWeight i) slot.weight) :=
    List.mem_mapIdx.mpr ⟨i, hi, rfl⟩
  simp [checks, featureChecks, hm]

theorem charScale (h : config.Accepted) :
    config.features.charScale.isFinite = true ∧ 0 < config.features.charScale :=
  h.positive .charScale (by simp [checks, featureChecks])

theorem trust (h : config.Accepted) (c : Channel) :
    (config.trust.get c).isFinite = true ∧ 0 ≤ config.trust.get c := by
  rw [Config.trust, PerChannel.get_map]
  refine h.nonnegative (.trust (config.channels.get c).kind) ?_
  cases c <;> simp [checks, channelChecks, PerChannel.get]

theorem phraseBonus (h : config.Accepted) :
    config.evidence.phraseBonus.isFinite = true ∧ 0 ≤ config.evidence.phraseBonus :=
  h.nonnegative .phraseBonus (by simp [checks, evidenceChecks])

theorem noMatchWeight (h : config.Accepted) :
    config.evidence.noMatchWeight.isFinite = true ∧ 0 ≤ config.evidence.noMatchWeight :=
  h.nonnegative .noMatchWeight (by simp [checks, evidenceChecks])

theorem routeWeight (h : config.Accepted) {r : Route Float}
    (hr : r ∈ config.evidence.symmetryRoutes ++ config.evidence.concentrationRoutes ++
      config.evidence.uniformityRoutes) : r.weight.isFinite = true ∧ 0 ≤ r.weight := by
  have hm : demandNonnegative .routeWeight r.weight ∈ evidenceChecks config.evidence :=
    List.mem_append_right _ (List.mem_map_of_mem hr)
  exact h.nonnegative .routeWeight (by simp [checks, hm])

theorem massPenalty (h : config.Accepted) :
    config.suppression.massPenalty.isFinite = true ∧ 0 ≤ config.suppression.massPenalty :=
  h.nonnegative .massPenalty (by simp [checks, suppressionChecks])

theorem massRelief (h : config.Accepted) :
    config.suppression.massRelief.isFinite = true ∧ 0 ≤ config.suppression.massRelief :=
  h.nonnegative .massRelief (by simp [checks, suppressionChecks])

/-- The weight of `unknown` in texts without a signal is above the others. -/
theorem noSignalWeight (h : config.Accepted) :
    config.noSignalWeight.isFinite = true ∧ 1 < config.noSignalWeight := by
  have hm : (demandFinite .noSignalWeight config.noSignalWeight).or
      (if config.noSignalWeight ≤ 1 then
        some (.notAboveOne .noSignalWeight config.noSignalWeight) else none) ∈ config.checks := by
    simp [checks, noSignalChecks]
  have hn := accepted_iff.mp h _ hm
  rw [Option.or_eq_none_iff, demandFinite_eq_none] at hn
  refine ⟨hn.1, ?_⟩
  have hd := Defined.of_isFinite hn.1
  have hle := hn.2
  simp only [le_iff, hd, isNearest_one.1, true_and] at hle
  simpa [lt_iff, hd, isNearest_one.1] using hle

end Config.Accepted

/-- The default configuration meets every demand. -/
theorem Config.default_accepted : (Config.default : Config Float).Accepted := by
  unfold Config.Accepted
  decide +kernel

end TextIntent
