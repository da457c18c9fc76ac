import TextIntent.Proofs.Real.Scalar
import TextIntent.Proofs.Classifier.Run
import TextIntent.Config.Default

/-! Configurations over the reals. Every real number is finite, so what is left of acceptance are the
bounds of the settings and the words. -/
namespace TextIntent.Exact

open Scalar Config

section Demands

variable {q : Quantity} {x : ℝ}

@[simp] theorem demandFinite_eq_none : demandFinite q x = none := by
  simp [demandFinite]

@[simp] theorem demandNonnegative_eq_none : demandNonnegative q x = none ↔ 0 ≤ x := by
  simp [demandNonnegative]

@[simp] theorem demandPositive_eq_none : demandPositive q x = none ↔ 0 < x := by
  simp [demandPositive]

@[simp] theorem demandUnit_eq_none : demandUnit q x = none ↔ 0 ≤ x ∧ x ≤ 1 := by
  simp [demandUnit]

end Demands

/-- A check of every member of a list. -/
theorem forall_mem_mapIdx_eq_none {β γ : Type} (xs : List β) {f : Nat → β → Option γ} {p : β → Prop}
    (h : ∀ i x, f i x = none ↔ p x) : (∀ check ∈ xs.mapIdx f, check = none) ↔ ∀ x ∈ xs, p x := by
  rw [← findSome?_mapIdx_eq_none_iff xs h, List.findSome?_eq_none_iff]
  rfl

section Groups

theorem featureChecks_iff (f : FeatureSettings ℝ) :
    (∀ check ∈ featureChecks f, check = none) ↔
      f.slots.length = 10 ∧ (∀ slot ∈ f.slots, 0 ≤ slot.weight) ∧
        (∀ r ∈ f.reference.toList, 0 < r) ∧ 0 < f.partnerSum ∧ 0 < f.couplingSpread ∧
        0 ≤ f.partnerBonus ∧ 0 < f.temperature ∧ 0 < f.charScale := by
  simp only [featureChecks, List.forall_mem_append, List.forall_mem_cons, List.not_mem_nil,
    false_implies, implies_true, and_true, demandNonnegative_eq_none, demandPositive_eq_none,
    forall_mem_mapIdx_eq_none f.slots fun _ slot =>
      demandNonnegative_eq_none (q := .slotWeight _) (x := slot.weight),
    forall_mem_mapIdx_eq_none f.reference.toList fun _ r =>
      demandPositive_eq_none (q := .reference _) (x := r)]
  simp [and_assoc]

theorem channelChecks_iff (position : Nat) (c : Channel) (s : ChannelSettings ℝ) :
    (∀ check ∈ channelChecks position c s, check = none) ↔
      s.kind = c ∧ 0 < s.scale ∧ 0 ≤ s.jitter ∧ 0 ≤ s.trust := by
  simp [channelChecks]

theorem evidenceChecks_iff (e : EvidenceSettings ℝ) :
    (∀ check ∈ evidenceChecks e, check = none) ↔
      0 ≤ e.phraseBonus ∧ 0 ≤ e.noMatchWeight ∧ 0 < e.concentrationThreshold ∧
        ∀ r ∈ e.symmetryRoutes ++ e.concentrationRoutes ++ e.uniformityRoutes, 0 ≤ r.weight := by
  simp only [evidenceChecks, List.forall_mem_append, List.forall_mem_cons, List.forall_mem_map,
    List.not_mem_nil, false_implies, implies_true, and_true, true_and, demandFinite_eq_none,
    demandNonnegative_eq_none, demandPositive_eq_none, and_assoc]

theorem suppressionChecks_iff (s : SuppressionSettings ℝ) :
    (∀ check ∈ suppressionChecks s, check = none) ↔
      0 ≤ s.boostIncrement ∧ 0 ≤ s.dominance ∧ 0 ≤ s.activationThreshold ∧ 0 ≤ s.massPenalty ∧
        0 ≤ s.massRelief ∧ ∀ p ∈ s.pairs, p.first ≠ p.second ∧ 0 ≤ p.repulsion := by
  simp only [suppressionChecks, List.forall_mem_append, List.forall_mem_cons,
    List.forall_mem_flatMap, List.not_mem_nil, false_implies, implies_true, and_true,
    demandNonnegative_eq_none]
  simp [and_assoc]

theorem bridgeChecks_iff (b : BridgeSettings ℝ) :
    (∀ check ∈ bridgeChecks b, check = none) ↔
      0 < b.warp ∧ b.bandLow ≤ b.bandHigh ∧ (0 ≤ b.bandTransfer ∧ b.bandTransfer ≤ 1) ∧
        (0 ≤ b.lowSignalShare ∧ b.lowSignalShare ≤ 1) ∧
        (0 ≤ b.lowSignalTransfer ∧ b.lowSignalTransfer ≤ 1) ∧ 0 ≤ b.bandSecondaryFloor ∧
        0 ≤ b.lowSignalMax ∧
        (∀ a ∈ b.structuralEffect ++ b.operatorEffect ++ b.domainEffect, 0 ≤ a.factor) ∧
        ¬Text.isVacant b.domainTrigger = true := by
  simp only [bridgeChecks, List.forall_mem_append, List.forall_mem_cons, List.forall_mem_map,
    List.not_mem_nil, false_implies, implies_true, and_true, true_and, demandFinite_eq_none,
    demandNonnegative_eq_none, demandPositive_eq_none, demandUnit_eq_none]
  simp [and_assoc]

theorem noSignalChecks_iff (w : ℝ) :
    (∀ check ∈ noSignalChecks w, check = none) ↔ 1 < w := by
  simp [noSignalChecks]

end Groups

section Accepted

variable {config : Config ℝ}

theorem slotWeight_nonneg (h : config.Accepted) {slot : Slot ℝ}
    (hs : slot ∈ config.features.slots) : 0 ≤ slot.weight := by
  have hf := (featureChecks_iff config.features).mp fun check hm =>
    accepted_iff.mp h check (by simp [checks, hm])
  exact hf.2.1 slot hs

theorem charScale_pos (h : config.Accepted) : 0 < config.features.charScale := by
  have hf := (featureChecks_iff config.features).mp fun check hm =>
    accepted_iff.mp h check (by simp [checks, hm])
  exact hf.2.2.2.2.2.2.2

theorem partnerBonus_nonneg (h : config.Accepted) : 0 ≤ config.features.partnerBonus := by
  have hf := (featureChecks_iff config.features).mp fun check hm =>
    accepted_iff.mp h check (by simp [checks, hm])
  exact hf.2.2.2.2.2.1

theorem temperature_pos (h : config.Accepted) : 0 < config.features.temperature := by
  have hf := (featureChecks_iff config.features).mp fun check hm =>
    accepted_iff.mp h check (by simp [checks, hm])
  exact hf.2.2.2.2.2.2.1

theorem scale_pos (h : config.Accepted) (c : Channel) : 0 < (config.channels.get c).scale := by
  have hcheck : demandPositive (.scale (config.channels.get c).kind) (config.channels.get c).scale =
      none :=
    accepted_iff.mp h _ (by cases c <;> simp [checks, channelChecks, PerChannel.get])
  exact demandPositive_eq_none.mp hcheck

end Accepted

/-- Ten real numbers are a gradient for any filter, at any rate. -/
theorem adjusted_eq_ok (s : ChannelSettings ℝ) (filter : SlotVector ℝ) {gradient : List ℝ}
    {g : SlotVector ℝ} (h : SlotVector.ofList? gradient = some g) (rate : ℝ) :
    (s.adjusted filter gradient rate).run.value =
      .ok (filter.zipWith (fun f g => f - rate * g) g) :=
  (s.adjusted_eq_ok_iff _ _ _ _).mpr ⟨g, h, rfl, fun _ _ => rfl, rfl⟩

/-- The default configuration meets every demand without rounding, too. -/
theorem default_accepted : (Config.default : Config ℝ).Accepted := by
  have hf := (featureChecks_iff (Default.features : FeatureSettings ℝ)).mpr (by
    norm_num [Default.features])
  have hc (position : Nat) (c : Channel) :=
    (channelChecks_iff position c (Default.channels.get c : ChannelSettings ℝ)).mpr (by
      cases c <;> dsimp only [Default.channels, PerChannel.get] <;> norm_num)
  have he := (evidenceChecks_iff (Default.evidence : EvidenceSettings ℝ)).mpr (by
    dsimp only [Default.evidence]
    norm_num)
  have hs := (suppressionChecks_iff (Default.suppression : SuppressionSettings ℝ)).mpr (by
    simp only [Default.suppression, List.forall_mem_cons, List.not_mem_nil, ne_eq, reduceCtorEq,
      not_false_eq_true, true_and]
    norm_num)
  have hzone : ¬Text.isVacant "zone" = true := by decide +kernel
  have hb := (bridgeChecks_iff (Default.bridge : BridgeSettings ℝ)).mpr (by
    norm_num [Default.bridge, hzone])
  have hn := (noSignalChecks_iff (Config.default : Config ℝ).noSignalWeight).mpr (by
    norm_num [Config.default])
  have hv : (Config.default : Config ℝ).vocabularyChecks.all Option.isNone = true := by
    decide +kernel
  simp only [accepted_iff, checks, List.forall_mem_append]
  exact ⟨⟨⟨⟨⟨⟨⟨⟨hf, hc 0 .conservative⟩, hc 1 .balanced⟩, hc 2 .liberal⟩, he⟩, hs⟩, hb⟩, hn⟩,
    by simpa using hv⟩

end TextIntent.Exact
