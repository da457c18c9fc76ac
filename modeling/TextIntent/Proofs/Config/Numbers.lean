import TextIntent.Proofs.Config.Accepted

/-! The numbers of a configuration, wherever they stand in it. Acceptance demands of each of them that
it is finite. -/
namespace TextIntent

open Scalar Binary64

section Numbers

variable {α : Type}

/-! The numbers of each group of settings, in the order in which they are written. -/

def FeatureSettings.numbers (f : FeatureSettings α) : List α :=
  f.reference.toList
    ++ [f.partnerSum, f.couplingSpread, f.partnerBonus, f.temperature, f.charScale]
    ++ f.slots.map (·.weight)

def ChannelSettings.numbers (s : ChannelSettings α) : List α :=
  [s.bias, s.scale] ++ s.affinity.toList ++ [s.jitter, s.trust]

def EvidenceSettings.numbers (e : EvidenceSettings α) : List α :=
  [e.phraseBonus, e.noMatchWeight] ++ e.subspace.toList.flatMap Vector.toList
    ++ [e.subspaceOffset, e.concentrationThreshold]
    ++ (e.symmetryRoutes ++ e.concentrationRoutes ++ e.uniformityRoutes).map (·.weight)

def SuppressionSettings.numbers (s : SuppressionSettings α) : List α :=
  [s.boostIncrement] ++ s.pairs.map (·.repulsion)
    ++ [s.dominance, s.activationThreshold, s.massPenalty, s.massRelief]

def BridgeSettings.numbers (b : BridgeSettings α) : List α :=
  [b.center, b.warp] ++ (b.structuralEffect ++ b.operatorEffect ++ b.domainEffect).map (·.factor)
    ++ [b.bandLow, b.bandHigh, b.bandSecondaryFloor, b.bandTransfer, b.lowSignalMax, b.lowSignalShare,
      b.lowSignalTransfer]

/-- Every number of a configuration. -/
def Config.numbers (config : Config α) : List α :=
  config.features.numbers ++ config.channels.toList.flatMap ChannelSettings.numbers
    ++ config.evidence.numbers ++ config.suppression.numbers ++ config.bridge.numbers
    ++ [config.noSignalWeight]

end Numbers

section Demands

variable {q : Quantity} {x : Float}

theorem isFinite_of_demandPositive (h : demandPositive q x = none) : x.isFinite = true :=
  (demandPositive_eq_none.mp h).1

theorem isFinite_of_demandNonnegative (h : demandNonnegative q x = none) : x.isFinite = true :=
  (demandNonnegative_eq_none.mp h).1

/-- A number of the unit interval is finite, and no other check of its finiteness is made. -/
theorem isFinite_of_demandUnit (h : demandUnit q x = none) : x.isFinite = true := by
  unfold demandUnit at h
  split_ifs at h with hu
  obtain ⟨h₀, h₁⟩ := hu
  obtain ⟨hd, -, hle⟩ := (le_iff _ _).mp h₁
  have hpos : 0 ≤ value x := by simpa using ((le_iff _ _).mp h₀).2.2
  have hone : (1 : Float).isFinite = true := rfl
  refine hd.isNearest.isFinite hone ?_
  rw [abs_of_nonneg hpos, abs_of_nonneg (hpos.trans hle)]
  exact hle

/-- A check made of the items of a list with their positions. -/
theorem exists_of_mapIdx {σ τ : Type} {check : ℕ → σ → Option τ} {xs : List σ}
    (h : ∀ c ∈ xs.mapIdx check, c = none) {x : σ} (hx : x ∈ xs) : ∃ i, check i x = none := by
  obtain ⟨i, hi, rfl⟩ := List.mem_iff_getElem.mp hx
  exact ⟨i, h _ (List.mem_mapIdx.mpr ⟨i, hi, rfl⟩)⟩

end Demands

/-! Each group of settings: its checks leave out none of its numbers. -/

section Groups

open Config

theorem FeatureSettings.isFinite_of_checks {f : FeatureSettings Float}
    (h : ∀ check ∈ featureChecks f, check = none) : ∀ x ∈ f.numbers, x.isFinite = true := by
  simp only [featureChecks, List.forall_mem_append, List.forall_mem_cons] at h
  obtain ⟨⟨⟨-, hslots⟩, hreference⟩, hsum, hspread, hbonus, htemperature, hscale, -⟩ := h
  simp only [numbers, List.forall_mem_append, List.forall_mem_cons, List.forall_mem_map,
    List.not_mem_nil, false_imp_iff, implies_true, and_true]
  refine ⟨⟨fun x hx => ?_, isFinite_of_demandPositive hsum, isFinite_of_demandPositive hspread,
    isFinite_of_demandNonnegative hbonus, isFinite_of_demandPositive htemperature,
    isFinite_of_demandPositive hscale⟩, fun slot hs => ?_⟩
  · obtain ⟨i, hi⟩ := exists_of_mapIdx hreference hx
    exact isFinite_of_demandPositive hi
  · obtain ⟨i, hi⟩ := exists_of_mapIdx hslots hs
    exact isFinite_of_demandNonnegative hi

theorem ChannelSettings.isFinite_of_checks {i : ℕ} {c : Channel} {s : ChannelSettings Float}
    (h : ∀ check ∈ channelChecks i c s, check = none) : ∀ x ∈ s.numbers, x.isFinite = true := by
  simp only [channelChecks, List.forall_mem_append, List.forall_mem_cons, List.forall_mem_map] at h
  obtain ⟨⟨-, hbias, hscale, hjitter, htrust, -⟩, haffinity⟩ := h
  simp only [numbers, List.forall_mem_append, List.forall_mem_cons, List.not_mem_nil, false_imp_iff,
    implies_true, and_true]
  exact ⟨⟨⟨demandFinite_eq_none.mp hbias, isFinite_of_demandPositive hscale⟩,
    fun x hx => demandFinite_eq_none.mp (haffinity x hx)⟩, isFinite_of_demandNonnegative hjitter,
    isFinite_of_demandNonnegative htrust⟩

theorem EvidenceSettings.isFinite_of_checks {e : EvidenceSettings Float}
    (h : ∀ check ∈ evidenceChecks e, check = none) : ∀ x ∈ e.numbers, x.isFinite = true := by
  simp only [evidenceChecks, List.forall_mem_append, List.forall_mem_cons, List.forall_mem_map] at h
  obtain ⟨⟨⟨hbonus, hweight, hoffset, hthreshold, -⟩, hsubspace⟩, ⟨hsymmetry, hconcentration⟩,
    huniformity⟩ := h
  simp only [numbers, List.forall_mem_append, List.forall_mem_cons, List.forall_mem_map,
    List.not_mem_nil, false_imp_iff, implies_true, and_true]
  exact ⟨⟨⟨⟨isFinite_of_demandNonnegative hbonus, isFinite_of_demandNonnegative hweight⟩,
    fun x hx => demandFinite_eq_none.mp (hsubspace x hx)⟩, demandFinite_eq_none.mp hoffset,
    isFinite_of_demandPositive hthreshold⟩,
    ⟨fun r hr => isFinite_of_demandNonnegative (hsymmetry r hr),
      fun r hr => isFinite_of_demandNonnegative (hconcentration r hr)⟩,
    fun r hr => isFinite_of_demandNonnegative (huniformity r hr)⟩

theorem SuppressionSettings.isFinite_of_checks {s : SuppressionSettings Float}
    (h : ∀ check ∈ suppressionChecks s, check = none) : ∀ x ∈ s.numbers, x.isFinite = true := by
  simp only [suppressionChecks, List.forall_mem_append, List.forall_mem_cons,
    List.forall_mem_flatMap] at h
  obtain ⟨⟨hboost, hdominance, hthreshold, hpenalty, hrelief, -⟩, hpairs⟩ := h
  simp only [numbers, List.forall_mem_append, List.forall_mem_cons, List.forall_mem_map,
    List.not_mem_nil, false_imp_iff, implies_true, and_true]
  exact ⟨⟨isFinite_of_demandNonnegative hboost,
    fun c hc => isFinite_of_demandNonnegative (hpairs c hc).2.1⟩,
    isFinite_of_demandNonnegative hdominance, isFinite_of_demandNonnegative hthreshold,
    isFinite_of_demandNonnegative hpenalty, isFinite_of_demandNonnegative hrelief⟩

theorem BridgeSettings.isFinite_of_checks {b : BridgeSettings Float}
    (h : ∀ check ∈ bridgeChecks b, check = none) : ∀ x ∈ b.numbers, x.isFinite = true := by
  simp only [bridgeChecks, List.forall_mem_append, List.forall_mem_cons, List.forall_mem_map] at h
  obtain ⟨⟨⟨hcenter, hwarp, hlow, hhigh, -, htransfer, hshare, hmove, hfloor, hmax, -⟩,
    ⟨hstructural, hoperator⟩, hdomain⟩, -⟩ := h
  simp only [numbers, List.forall_mem_append, List.forall_mem_cons, List.forall_mem_map,
    List.not_mem_nil, false_imp_iff, implies_true, and_true]
  exact ⟨⟨⟨demandFinite_eq_none.mp hcenter, isFinite_of_demandPositive hwarp⟩,
    ⟨fun a ha => isFinite_of_demandNonnegative (hstructural a ha),
      fun a ha => isFinite_of_demandNonnegative (hoperator a ha)⟩,
    fun a ha => isFinite_of_demandNonnegative (hdomain a ha)⟩,
    demandFinite_eq_none.mp hlow, demandFinite_eq_none.mp hhigh, isFinite_of_demandNonnegative hfloor,
    isFinite_of_demandUnit htransfer, isFinite_of_demandNonnegative hmax, isFinite_of_demandUnit hshare,
    isFinite_of_demandUnit hmove⟩

end Groups

/-- No number of an accepted configuration is undefined or infinite. -/
theorem Config.Accepted.isFinite {config : Config Float} (h : config.Accepted) :
    ∀ x ∈ config.numbers, x.isFinite = true := by
  have hall := accepted_iff.mp h
  simp only [checks, List.forall_mem_append] at hall
  obtain ⟨⟨⟨⟨⟨⟨⟨⟨hf, h₀⟩, h₁⟩, h₂⟩, he⟩, hs⟩, hb⟩, -⟩, -⟩ := hall
  simp only [numbers, PerChannel.toList, List.forall_mem_append, List.forall_mem_flatMap,
    List.forall_mem_cons, List.not_mem_nil, false_imp_iff, implies_true, and_true]
  exact ⟨⟨⟨⟨⟨FeatureSettings.isFinite_of_checks hf, ChannelSettings.isFinite_of_checks h₀,
    ChannelSettings.isFinite_of_checks h₁, ChannelSettings.isFinite_of_checks h₂⟩,
    EvidenceSettings.isFinite_of_checks he⟩, SuppressionSettings.isFinite_of_checks hs⟩,
    BridgeSettings.isFinite_of_checks hb⟩, h.noSignalWeight.1⟩

end TextIntent
