import TextIntent.Decision

/-! The stages of a decision, over any scalars: what the fields of a decision are made of, and the scores
in front of the last division. Without a signal these are even but for `unknown`; otherwise they are
what suppression and bridging have left. -/
namespace TextIntent.Config

open Scalar

variable {α : Type} [Scalar α]

/-- Every category at one, and `unknown` with the weight that it has without a signal. -/
def evenScores (config : Config α) : Scores α :=
  (PerCategory.const 1).set .unknown config.noSignalWeight

/-- Fused scores after the telltale words, the repulsions and the bridging rules. -/
def bridgedScores (config : Config α) (mass : Scores α) (lower : String)
    (signature : SlotVector α) (fused : Scores α) : Scores α :=
  let boosted := config.suppression.boost lower fused
  let suppressed := (config.suppression.suppress mass boosted).value
  (config.bridge.bridge config.features.reference lower signature suppressed).value.1

def unscaledScores (config : Config α) (mass : Scores α) (lower : String)
    (signature : SlotVector α) (fused : Scores α) : Scores α :=
  if config.lacksSignal lower signature then config.evenScores
  else config.bridgedScores mass lower signature fused

section Scores

variable (config : Config α) (mass : Scores α) {lower : String} {signature : SlotVector α}
  (fused : Scores α)

theorem get_evenScores (c : Category) :
    config.evenScores.get c = if c = .unknown then config.noSignalWeight else 1 := by
  rw [evenScores, PerCategory.set, PerCategory.get_modify, PerCategory.get_const]

variable {config}

theorem unscaledScores_of_signal (hs : config.lacksSignal lower signature = false) :
    config.unscaledScores mass lower signature fused =
      config.bridgedScores mass lower signature fused := by
  rw [unscaledScores, hs, if_neg Bool.false_ne_true]

theorem unscaledScores_of_lacksSignal (hs : config.lacksSignal lower signature = true) :
    config.unscaledScores mass lower signature fused = config.evenScores := by
  rw [unscaledScores, hs, if_pos rfl]

end Scores

section Decision

variable (config : Config α) (matrix : SlotMatrix α) (gates : Gates α) (mass : Scores α)
  (lower : String) (signature : SlotVector α)

theorem decision_activations :
    (config.decision matrix gates mass lower signature).value.activations =
      (gates.respond config.channels
        (heat matrix config.features.temperature signature).values).value := rfl

theorem decision_evidence :
    (config.decision matrix gates mass lower signature).value.evidence =
      Evidence.gather config.evidence lower signature
        (heat matrix config.features.temperature signature).values := rfl

theorem decision_fused :
    (config.decision matrix gates mass lower signature).value.fused =
      fuse (config.decision matrix gates mass lower signature).value.evidence
        (config.decision matrix gates mass lower signature).value.activations config.trust := rfl

theorem decision_energy :
    (config.decision matrix gates mass lower signature).value.energy =
      (confine 0 maxFinite (heat matrix config.features.temperature signature).energy).value := rfl

theorem decision_finalScores :
    (config.decision matrix gates mass lower signature).value.finalScores =
      (config.unscaledScores mass lower signature
        (config.decision matrix gates mass lower signature).value.fused).normalized := by
  change (config.finalScores mass lower signature _).value.1 = _
  unfold finalScores unscaledScores
  split
  · rfl
  · rfl

theorem decision_category :
    (config.decision matrix gates mass lower signature).value.category =
      (config.decision matrix gates mass lower signature).value.finalScores.leader := rfl

theorem decision_confidence :
    let d := (config.decision matrix gates mass lower signature).value
    d.confidence =
      (confine 0 1 (d.finalScores.get d.category / (d.finalScores.total + epsilon))).value := rfl

end Decision

end TextIntent.Config
