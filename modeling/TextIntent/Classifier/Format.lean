import TextIntent.Config.Format
import TextIntent.Classifier.Basic

/-! Counters, snapshots and decisions as JSON. -/
namespace TextIntent.Format

variable {α β : Type}

/-- A value that may be missing: `null`, or no field at all. -/
def optional (item : Format β) : Format (Option β) where
  encode x := (x.map item.encode).getD .null
  decode
    | .null => some none
    | v => (item.decode v).map some

variable (number : Format α)

def counters : Format (Counters α) where
  encode c := .record [
    ("flow", number.encode c.flow), ("activations", word64.encode c.activations)]
  decode v := do
    let [flow, activations] ← v.record? ["flow", "activations"] | none
    return ⟨← number.decode flow, ← word64.decode activations⟩

def snapshot : Format (Snapshot α) where
  encode s := .record [
    ("attractor_mass", number.perCategory.encode s.mass),
    ("filters", number.slotVector.perChannel.encode s.filters)]
  decode v := do
    let [mass, filters] ← v.record? ["attractor_mass", "filters"] | none
    return ⟨← number.perCategory.decode mass, ← number.slotVector.perChannel.decode filters⟩

def decision : Format (Decision α) where
  encode d := .record [
    ("category", category.encode d.category),
    ("confidence", number.encode d.confidence),
    ("dominant_channel", channel.encode d.strongestChannel),
    ("channel_activations", number.perChannel.encode d.activations),
    ("diagnostics", .record [
      ("energy", number.encode d.energy),
      ("query_position", number.encode d.position),
      ("head_scores", number.perCategory.perChannel.encode d.evidence),
      ("fused", number.perCategory.encode d.fused),
      ("final_scores", number.perCategory.encode d.finalScores),
      ("bridge_rule", rule.optional.encode d.rule)])]
  decode v := do
    let [winner, confidence, strongestChannel, activations, diagnostics] ← v.record?
        ["category", "confidence", "dominant_channel", "channel_activations", "diagnostics"]
      | none
    let [some energy, some position, some evidence, some fused, some finalScores, bridgeRule] ←
        diagnostics.fields? ["energy", "query_position", "head_scores", "fused", "final_scores",
          "bridge_rule"]
      | none
    return {
      category := ← category.decode winner
      confidence := ← number.decode confidence
      strongestChannel := ← channel.decode strongestChannel
      activations := ← number.perChannel.decode activations
      energy := ← number.decode energy
      position := ← number.decode position
      evidence := ← number.perCategory.perChannel.decode evidence
      fused := ← number.perCategory.decode fused
      finalScores := ← number.perCategory.decode finalScores
      rule := ← rule.optional.decode (bridgeRule.getD .null) }

end TextIntent.Format
