import TextIntent.Config.Validation
import TextIntent.Json.Library

/-! Configurations as JSON. Every field has to be given, in any order or as an array in the order
used here. How single numbers are written is left open. `Config.save` and `Config.load?` leave the
text to a library, and `Config.write` and `Config.read?` use the standard one. -/
namespace TextIntent

namespace Format

variable {α : Type} (number : Format α)

def activation : Format Activation := choice Activation.name Activation.named

def slot : Format (Slot α) where
  encode s := .record [("weight", number.encode s.weight), ("keywords", text.list.encode s.words)]
  decode v := do
    let [weight, words] ← v.record? ["weight", "keywords"] | none
    return ⟨← number.decode weight, ← text.list.decode words⟩

def categoryWords : Format CategoryWords where
  encode w := .record [
    ("category", category.encode w.category), ("keywords", text.list.encode w.words)]
  decode v := do
    let [c, words] ← v.record? ["category", "keywords"] | none
    return ⟨← category.decode c, ← text.list.decode words⟩

def adjustment : Format (Adjustment α) where
  encode a := .record [
    ("category", category.encode a.category), ("factor", number.encode a.factor)]
  decode v := do
    let [c, factor] ← v.record? ["category", "factor"] | none
    return ⟨← category.decode c, ← number.decode factor⟩

def route : Format (Route α) where
  encode r := .record [
    ("category", category.encode r.category), ("weight", number.encode r.weight)]
  decode v := do
    let [c, weight] ← v.record? ["category", "weight"] | none
    return ⟨← category.decode c, ← number.decode weight⟩

def confusablePair : Format (ConfusablePair α) where
  encode p := .record [
    ("a", category.encode p.first), ("b", category.encode p.second),
    ("repulsion", number.encode p.repulsion)]
  decode v := do
    let [a, b, repulsion] ← v.record? ["a", "b", "repulsion"] | none
    return ⟨← category.decode a, ← category.decode b, ← number.decode repulsion⟩

def features : Format (FeatureSettings α) where
  encode f := .record [
    ("reference_sequence", number.slotVector.encode f.reference),
    ("mirror_sum", number.encode f.partnerSum),
    ("coupling_spread", number.encode f.couplingSpread),
    ("mirror_bonus", number.encode f.partnerBonus),
    ("temperature", number.encode f.temperature),
    ("char_scale", number.encode f.charScale),
    ("min_signal_chars", word64.encode f.minSignalChars),
    ("slots", number.slot.list.encode f.slots)]
  decode v := do
    let [reference, partnerSum, couplingSpread, partnerBonus, temperature, charScale, minSignalChars,
        slots] ← v.record? ["reference_sequence", "mirror_sum", "coupling_spread", "mirror_bonus",
          "temperature", "char_scale", "min_signal_chars", "slots"] | none
    return {
      reference := ← number.slotVector.decode reference
      partnerSum := ← number.decode partnerSum
      couplingSpread := ← number.decode couplingSpread
      partnerBonus := ← number.decode partnerBonus
      temperature := ← number.decode temperature
      charScale := ← number.decode charScale
      minSignalChars := ← word64.decode minSignalChars
      slots := ← number.slot.list.decode slots }

def channelSettings : Format (ChannelSettings α) where
  encode s := .record [
    ("kind", channel.encode s.kind),
    ("activation", activation.encode s.activation),
    ("bias", number.encode s.bias),
    ("scale", number.encode s.scale),
    ("affinity", number.slotVector.encode s.affinity),
    ("jitter", number.encode s.jitter),
    ("seed", word64.encode s.seed),
    ("trust", number.encode s.trust)]
  decode v := do
    let [kind, curve, bias, scale, affinity, jitter, seed, trust] ← v.record?
        ["kind", "activation", "bias", "scale", "affinity", "jitter", "seed", "trust"] | none
    return {
      kind := ← channel.decode kind
      activation := ← activation.decode curve
      bias := ← number.decode bias
      scale := ← number.decode scale
      affinity := ← number.slotVector.decode affinity
      jitter := ← number.decode jitter
      seed := ← word64.decode seed
      trust := ← number.decode trust }

def evidence : Format (EvidenceSettings α) where
  encode e := .record [
    ("lexical", categoryWords.list.encode e.lexical),
    ("phrase_bonus", number.encode e.phraseBonus),
    ("no_match_unknown_weight", number.encode e.noMatchWeight),
    ("subspace", number.slotVector.perCategory.encode e.subspace),
    ("subspace_offset", number.encode e.subspaceOffset),
    ("concentration_threshold", number.encode e.concentrationThreshold),
    ("symmetry_routes", number.route.list.encode e.symmetryRoutes),
    ("concentration_routes", number.route.list.encode e.concentrationRoutes),
    ("uniformity_routes", number.route.list.encode e.uniformityRoutes)]
  decode v := do
    let [lexical, phraseBonus, noMatchWeight, subspace, subspaceOffset, concentrationThreshold,
        symmetryRoutes, concentrationRoutes, uniformityRoutes] ← v.record?
        ["lexical", "phrase_bonus", "no_match_unknown_weight", "subspace", "subspace_offset",
          "concentration_threshold", "symmetry_routes", "concentration_routes",
          "uniformity_routes"] | none
    return {
      lexical := ← categoryWords.list.decode lexical
      phraseBonus := ← number.decode phraseBonus
      noMatchWeight := ← number.decode noMatchWeight
      subspace := ← number.slotVector.perCategory.decode subspace
      subspaceOffset := ← number.decode subspaceOffset
      concentrationThreshold := ← number.decode concentrationThreshold
      symmetryRoutes := ← number.route.list.decode symmetryRoutes
      concentrationRoutes := ← number.route.list.decode concentrationRoutes
      uniformityRoutes := ← number.route.list.decode uniformityRoutes }

def suppression : Format (SuppressionSettings α) where
  encode s := .record [
    ("boost_increment", number.encode s.boostIncrement),
    ("discriminative", categoryWords.list.encode s.discriminative),
    ("pairs", number.confusablePair.list.encode s.pairs),
    ("dominance", number.encode s.dominance),
    ("activation_threshold", number.encode s.activationThreshold),
    ("mass_penalty", number.encode s.massPenalty),
    ("mass_relief", number.encode s.massRelief)]
  decode v := do
    let [boostIncrement, discriminative, pairs, dominance, activationThreshold, massPenalty,
        massRelief] ← v.record? ["boost_increment", "discriminative", "pairs", "dominance",
          "activation_threshold", "mass_penalty", "mass_relief"] | none
    return {
      boostIncrement := ← number.decode boostIncrement
      discriminative := ← categoryWords.list.decode discriminative
      pairs := ← number.confusablePair.list.decode pairs
      dominance := ← number.decode dominance
      activationThreshold := ← number.decode activationThreshold
      massPenalty := ← number.decode massPenalty
      massRelief := ← number.decode massRelief }

def bridge : Format (BridgeSettings α) where
  encode b := .record [
    ("center", number.encode b.center),
    ("warp", number.encode b.warp),
    ("structural_keywords", text.list.encode b.structuralWords),
    ("physics_cues", text.list.encode b.physicsCues),
    ("operator_symbols", text.list.encode b.operatorSymbols),
    ("structural_effect", number.adjustment.list.encode b.structuralEffect),
    ("operator_keywords", text.list.encode b.operatorWords),
    ("operator_effect", number.adjustment.list.encode b.operatorEffect),
    ("domain_trigger", text.encode b.domainTrigger),
    ("domain_effect", number.adjustment.list.encode b.domainEffect),
    ("band_leader", category.encode b.bandLeader),
    ("band_secondary", category.encode b.bandSecondary),
    ("band_low", number.encode b.bandLow),
    ("band_high", number.encode b.bandHigh),
    ("band_secondary_floor", number.encode b.bandSecondaryFloor),
    ("band_transfer", number.encode b.bandTransfer),
    ("low_signal_max", number.encode b.lowSignalMax),
    ("low_signal_share", number.encode b.lowSignalShare),
    ("low_signal_transfer", number.encode b.lowSignalTransfer)]
  decode v := do
    let [center, warp, structuralWords, physicsCues, operatorSymbols, structuralEffect,
        operatorWords, operatorEffect, domainTrigger, domainEffect, bandLeader, bandSecondary,
        bandLow, bandHigh, bandSecondaryFloor, bandTransfer, lowSignalMax, lowSignalShare,
        lowSignalTransfer] ← v.record? ["center", "warp", "structural_keywords", "physics_cues",
          "operator_symbols", "structural_effect", "operator_keywords", "operator_effect",
          "domain_trigger", "domain_effect", "band_leader", "band_secondary", "band_low",
          "band_high", "band_secondary_floor", "band_transfer", "low_signal_max",
          "low_signal_share", "low_signal_transfer"] | none
    return {
      center := ← number.decode center
      warp := ← number.decode warp
      structuralWords := ← text.list.decode structuralWords
      physicsCues := ← text.list.decode physicsCues
      operatorSymbols := ← text.list.decode operatorSymbols
      structuralEffect := ← number.adjustment.list.decode structuralEffect
      operatorWords := ← text.list.decode operatorWords
      operatorEffect := ← number.adjustment.list.decode operatorEffect
      domainTrigger := ← text.decode domainTrigger
      domainEffect := ← number.adjustment.list.decode domainEffect
      bandLeader := ← category.decode bandLeader
      bandSecondary := ← category.decode bandSecondary
      bandLow := ← number.decode bandLow
      bandHigh := ← number.decode bandHigh
      bandSecondaryFloor := ← number.decode bandSecondaryFloor
      bandTransfer := ← number.decode bandTransfer
      lowSignalMax := ← number.decode lowSignalMax
      lowSignalShare := ← number.decode lowSignalShare
      lowSignalTransfer := ← number.decode lowSignalTransfer }

def config : Format (Config α) where
  encode c := .record [
    ("substrate", number.features.encode c.features),
    ("channels", number.channelSettings.perChannel.encode c.channels),
    ("heads", number.evidence.encode c.evidence),
    ("suppression", number.suppression.encode c.suppression),
    ("bridge", number.bridge.encode c.bridge),
    ("signal_free_unknown_weight", number.encode c.noSignalWeight)]
  decode v := do
    let [features, channels, evidence, suppression, bridge, noSignalWeight] ← v.record?
        ["substrate", "channels", "heads", "suppression", "bridge",
          "signal_free_unknown_weight"] | none
    return {
      features := ← number.features.decode features
      channels := ← number.channelSettings.perChannel.decode channels
      evidence := ← number.evidence.decode evidence
      suppression := ← number.suppression.decode suppression
      bridge := ← number.bridge.decode bridge
      noSignalWeight := ← number.decode noSignalWeight }

end Format

namespace Config

/-- What came of decoding a configuration. -/
def decoded : Option (Config Float) → Except (Fault Float) (Config Float)
  | some config => .ok config
  | none => .error (.config .unreadable)

/-- The configuration that a JSON value stands for. -/
def ofJson? (v : Json) : Except (Fault Float) (Config Float) :=
  decoded (Format.double.config.decode v)

/-- The configuration as JSON text. -/
def save (lib : Json.Library) (config : Config Float) : String :=
  lib.print lib.double.config config

/-- Reads a configuration from JSON text. It need not be an accepted one. -/
def load? (lib : Json.Library) (s : String) : Except (Fault Float) (Config Float) :=
  decoded (lib.read? lib.double.config s)

def write (config : Config Float) : String := config.save .standard

def read? (s : String) : Except (Fault Float) (Config Float) := load? .standard s

end Config
end TextIntent
