import TextIntent.Proofs.Real.Config
import TextIntent.Proofs.Real.Scores
import TextIntent.Proofs.Decision.Stages

/-! Category and confidence without rounding. The category is the leader of the scores in front of the last
division, as long as there is something to divide, and the confidence is its share in their total. -/
namespace TextIntent.Exact

open Scalar Config Classifier

section Nonnegative

variable {config : Config ℝ} {mass : Scores ℝ} {lower : String} {signature : SlotVector ℝ}
  {fused : Scores ℝ}

/-- Suppression and every bridging rule end with scores that are not negative. -/
theorem bridgedScores_nonneg (c : Category) :
    0 ≤ (bridgedScores config mass lower signature fused).get c := by
  unfold bridgedScores BridgeSettings.bridge
  dsimp only
  split
  · exact nonnegative_nonneg _ c
  · exact nonnegative_nonneg _ c

theorem one_lt_noSignalWeight (h : config.Accepted) : 1 < config.noSignalWeight :=
  (noSignalChecks_iff _).mp fun check hm =>
    Config.accepted_iff.mp h check (by simp [Config.checks, hm])

theorem unscaledScores_nonneg (h : config.Accepted) (mass : Scores ℝ) (lower : String)
    (signature : SlotVector ℝ) (fused : Scores ℝ) (c : Category) :
    0 ≤ (unscaledScores config mass lower signature fused).get c := by
  have hw := one_lt_noSignalWeight h
  unfold unscaledScores
  split_ifs
  · rw [get_evenScores]
    split_ifs
    · linarith
    · exact zero_le_one
  · exact bridgedScores_nonneg c

end Nonnegative

section Decision

variable {config : Config ℝ} (matrix : SlotMatrix ℝ) (gates : Gates ℝ) (mass : Scores ℝ)
  (lower : String) (signature : SlotVector ℝ)

/-- The share of the leader is never confined. -/
theorem decision_confidence_eq_leadingShare (h : config.Accepted) :
    let d := (config.decision matrix gates mass lower signature).value
    d.confidence = leadingShare (unscaledScores config mass lower signature d.fused) := by
  intro d
  obtain ⟨hlo, hhi⟩ := leadingShare_bounds (unscaledScores_nonneg h mass lower signature d.fused)
  rw [decision_confidence, value_confine, decision_category, decision_finalScores]
  refine clamp_of_mem (le_trans ?_ hlo) hhi.le
  norm_num

end Decision

section Decided

variable {config : Config ℝ} {cls : Classifier ℝ} {lower : String} {signature : SlotVector ℝ}

/-- The decision on a question, and the scores whose leader gives the confidence. -/
theorem decided_confidence (h : config.Accepted) (hr : Reachable config cls) (op : Operation ℝ)
    (hq : op.question? config = some (lower, signature)) :
    ∃ d, (cls.perform op).value.1 = .decided d ∧
      d = (config.decision cls.matrix cls.gates cls.mass lower signature).value ∧
      d.confidence = leadingShare (unscaledScores config cls.mass lower signature d.fused) :=
  ⟨_, (hr.decided_iff op _).mpr ⟨lower, signature, hq, rfl⟩, rfl,
    decision_confidence_eq_leadingShare cls.matrix cls.gates cls.mass lower signature h⟩

end Decided

/-- In every state, for every text and every signature that is taken with it: the category is the first one
with the greatest final score, and it has an eighth of the total at least, but for the guards of the
divisions, and never all of it. With a signal it is the leader of the bridged scores, or `unknown` if there
is next to nothing to divide. -/
theorem decided_leader {config : Config ℝ} (h : config.Accepted) {cls : Classifier ℝ}
    (hr : Reachable config cls) (op : Operation ℝ) {lower : String} {signature : SlotVector ℝ}
    (hq : op.question? config = some (lower, signature)) :
    ∃ d, (cls.perform op).value.1 = .decided d ∧
      (∀ c, d.finalScores.get c ≤ d.finalScores.get d.category ∧
        (c.index < d.category.index → d.finalScores.get c < d.finalScores.get d.category)) ∧
      1 / 8 - 1e-9 ≤ d.confidence ∧ d.confidence < 1 ∧
      (config.lacksSignal lower signature = false →
        let boosted := config.suppression.boost lower d.fused
        let suppressed := (config.suppression.suppress cls.mass boosted).value
        let bridged :=
          (config.bridge.bridge config.features.reference lower signature suppressed).value.1
        d.category = if epsilon < bridged.total then bridged.leader else .unknown) := by
  obtain ⟨d, hdecided, hd, hconfidence⟩ := decided_confidence h hr op hq
  have hfinal : d.finalScores =
      (unscaledScores config cls.mass lower signature d.fused).normalized := by
    rw [hd]
    exact decision_finalScores config cls.matrix cls.gates cls.mass lower signature
  have hcategory : d.category = d.finalScores.leader := by rw [hd, decision_category]
  obtain ⟨hlo, hhi⟩ :=
    leadingShare_bounds (unscaledScores_nonneg h cls.mass lower signature d.fused)
  refine ⟨d, hdecided, hcategory ▸ firstMax_leader d.finalScores, hconfidence ▸ hlo,
    hconfidence ▸ hhi, fun hsignal => ?_⟩
  rw [hcategory, hfinal, unscaledScores_of_signal cls.mass d.fused hsignal, leader_normalized]
  rfl

/-- A greeting after feedback. -/
theorem decided_leader_of_good_morning :
    let config : Config ℝ := Config.default
    let cls := (ofConfig config).after [.feedback .help .greeting]
    config.Accepted ∧ Reachable config cls ∧
      config.lacksSignal "good morning" (Signature.ofLower config.features "good morning") = false ∧
      ∃ d, (cls.perform (.classify "good morning")).value.1 = .decided d ∧
        1 / 8 - 1e-9 ≤ d.confidence ∧ d.confidence < 1 := by
  intro config cls
  have hr : Reachable config cls := ⟨_, rfl⟩
  have hwords : Evidence.hasWords config.evidence "good morning" = true := by decide +kernel
  obtain ⟨d, hd, -, hlo, hhi, -⟩ :=
    decided_leader default_accepted hr (.classify "good morning") rfl
  exact ⟨default_accepted, hr, by simp [Config.lacksSignal, hwords], d, hd, hlo, hhi⟩

end TextIntent.Exact
