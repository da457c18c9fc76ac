import TextIntent.Bridging
import TextIntent.Channel.Gate
import TextIntent.Fusion
import TextIntent.Heating
import TextIntent.Signature
import TextIntent.Suppression

/-! The decision about one text: evidence is fused, told apart, bridged and scaled, and the leading
category wins. `Config.decision` reads filters and masses and changes neither. -/
namespace TextIntent

open Scalar

/-- The outcome for one text, with the values on the way to it. -/
structure Decision (α : Type) where
  category : Category
  /-- Share of the winning score in the total. -/
  confidence : α
  /-- The channel whose evidence weighs most for the category. -/
  strongestChannel : Channel
  activations : PerChannel α
  energy : α
  position : α
  evidence : PerChannel (Scores α)
  /-- The fused scores, before anything is told apart. -/
  fused : Scores α
  finalScores : Scores α
  /-- The bridging rule that took effect. -/
  rule : Option Rule

variable {α : Type} [Scalar α]

namespace Config

/-- Nothing to decide on: a zero signature and no keyword. -/
def lacksSignal (config : Config α) (lower : String) (signature : SlotVector α) : Bool :=
  signature.isZero && !Evidence.hasWords config.evidence lower

/-- The distribution for texts without a signal: almost even, `unknown` just ahead. -/
def noSignalScores (config : Config α) : Scores α :=
  ((PerCategory.const 1 : Scores α).set .unknown config.noSignalWeight).normalized

/-- The scores that decide, and the bridging rule that took effect. Texts without a signal are not
told apart. -/
def finalScores (config : Config α) (mass : Scores α) (lower : String)
    (signature : SlotVector α) (fused : Scores α) : Traced (Event α) (Scores α × Option Rule) :=
  if config.lacksSignal lower signature then return (config.noSignalScores, none)
  else do
    let boosted := config.suppression.boost lower fused
    let suppressed ← config.suppression.suppress mass boosted
    let (bridged, rule) ←
      config.bridge.bridge config.features.reference lower signature suppressed
    return (bridged.normalized, rule)

/-- Decides on a text in small letters, with the heating matrix of the configuration. -/
def decision (config : Config α) (matrix : SlotMatrix α) (gates : Gates α) (mass : Scores α)
    (lower : String) (signature : SlotVector α) : Traced (Event α) (Decision α) := do
  let heated := heat matrix config.features.temperature signature
  let activations ← gates.respond config.channels heated.values
  let evidence := Evidence.gather config.evidence lower signature heated.values
  let fused := fuse evidence activations config.trust
  let (finalScores, rule) ← config.finalScores mass lower signature fused
  let category := finalScores.leader
  let confidence ← confine 0 1 (finalScores.get category / (finalScores.total + epsilon))
  let strongestChannel := strongestChannel evidence config.trust category
  Traced.report (.classified category confidence strongestChannel rule)
  let energy ← confine 0 maxFinite heated.energy
  return {
    category, confidence, strongestChannel, activations, energy
    position := config.bridge.position config.features.reference signature
    evidence, fused, finalScores, rule }

end Config
end TextIntent
