import TextIntent.Config.Basic

/-! The configuration that is used when none is given. -/
namespace TextIntent

variable {α : Type} [Scalar α]

namespace Config.Default

def greetingWords : List String := ["hello", "hey", "greetings", "good morning", "good evening"]

def helpWords : List String := ["help", "what can you do", "how do i", "guide me", "assist"]

def statusWords : List String := ["status", "health", "uptime", "diagnostics", "are you running"]

def navigationWords : List String := ["go to", "open", "navigate", "show me", "take me to"]

def physicsWords : List String := ["energy", "force", "velocity", "gravity", "momentum", "mass"]

def operatorWords : List String := ["operator", "apply", "compose", "transform", "eigen"]

def structuralWords : List String :=
  ["category", "categories", "classify", "classification", "channel", "layer"]

def features : FeatureSettings α where
  reference := #v[7.0, 19.0, 37.0, 61.0, 91.0, 123.0, 153.0, 177.0, 195.0, 207.0]
  partnerSum := 214.0
  couplingSpread := 20.0
  partnerBonus := 0.5
  temperature := 1.0
  charScale := 1000.0
  minSignalChars := 3
  slots := [
    ⟨1.0, greetingWords⟩,
    ⟨1.0, helpWords⟩,
    ⟨0.9, statusWords⟩,
    ⟨0.9, navigationWords⟩,
    ⟨0.8, ["zone", "area", "region", "boundary"]⟩,
    ⟨1.0, physicsWords⟩,
    ⟨1.0, operatorWords⟩,
    ⟨1.0, structuralWords⟩,
    ⟨0.6, ["what", "why", "how", "?"]⟩,
    ⟨0.7, ["run", "start", "stop", "set"]⟩]

/-- An affinity that grows evenly from 0.3 to 1.2. -/
def rising : SlotVector α := Vector.ofFn fun i => 0.3 + 0.9 * (i.val : α) / 9.0

def channels : PerChannel (ChannelSettings α) where
  conservative := {
    kind := .conservative
    activation := .sigmoid
    bias := -1.0
    scale := 1.0
    affinity := #v[0.8, 1.0, 0.6, 0.6, 0.4, 0.9, 0.9, 0.9, 0.5, 0.5]
    jitter := 0.02
    seed := 42
    trust := 0.40 }
  balanced := {
    kind := .balanced
    activation := .tanh
    bias := 0.0
    scale := 1.0
    affinity := Vector.replicate 10 0.7
    jitter := 0.02
    seed := 43
    trust := 0.35 }
  liberal := {
    kind := .liberal
    activation := .softplus
    bias := 0.5
    scale := 0.5
    affinity := rising
    jitter := 0.02
    seed := 44
    trust := 0.25 }

def evidence : EvidenceSettings α where
  lexical := [
    ⟨.greeting, greetingWords⟩,
    ⟨.help, helpWords⟩,
    ⟨.status, statusWords⟩,
    ⟨.navigation, navigationWords⟩,
    ⟨.physics, physicsWords⟩,
    ⟨.operator, operatorWords⟩,
    ⟨.structural, structuralWords⟩]
  phraseBonus := 0.5
  noMatchWeight := 3.0
  subspace := {
    greeting := #v[1, 0, 0, 0, 0, 0, 0, 0, 0, 0]
    help := #v[0, 1, 0, 0, 0, 0, 0, 0, 0.5, 0]
    status := #v[0, 0, 1, 0, 0, 0, 0, 0, 0, 0.3]
    navigation := #v[0, 0, 0, 1, 1, 0, 0, 0, 0, 0]
    physics := #v[0, 0, 0, 0, 0.5, 1, 0, -0.3, 0, 0]
    operator := #v[0, 0, 0, 0, 0, -0.3, 1, 0, 0, 0]
    structural := #v[0, 0, 0, 0, 0, 0, -0.2, 1, 0, 0]
    unknown := #v[-0.5, -0.5, -0.5, -0.5, -0.5, -0.5, -0.5, -0.5, 0, 0] }
  subspaceOffset := 0.5
  concentrationThreshold := 2.0
  symmetryRoutes := [⟨.structural, 0.6⟩, ⟨.unknown, 0.4⟩]
  concentrationRoutes := [⟨.physics, 0.4⟩, ⟨.help, 0.3⟩, ⟨.navigation, 0.3⟩]
  uniformityRoutes := [⟨.greeting, 0.3⟩, ⟨.status, 0.3⟩, ⟨.unknown, 0.4⟩]

def suppression : SuppressionSettings α where
  boostIncrement := 0.3
  discriminative := [
    ⟨.greeting, ["good morning", "greetings"]⟩,
    ⟨.help, ["what can you do", "how do i"]⟩,
    ⟨.status, ["uptime", "diagnostics"]⟩,
    ⟨.navigation, ["navigate", "take me to"]⟩,
    ⟨.physics, ["gravity", "momentum", "velocity"]⟩,
    ⟨.operator, ["eigen", "compose"]⟩,
    ⟨.structural, ["classification", "classify"]⟩]
  pairs := [
    ⟨.physics, .operator, 0.5⟩,
    ⟨.structural, .operator, 0.5⟩,
    ⟨.structural, .physics, 0.5⟩,
    ⟨.help, .status, 0.5⟩,
    ⟨.help, .navigation, 0.5⟩]
  dominance := 0.75
  activationThreshold := 0.1
  massPenalty := 0.1
  massRelief := 0.05

def bridge : BridgeSettings α where
  center := 107.0
  warp := 2.0
  structuralWords := structuralWords
  physicsCues := physicsWords
  operatorSymbols := ["=", "+", "*", "^"]
  structuralEffect := [⟨.structural, 1.5⟩, ⟨.physics, 0.6⟩, ⟨.operator, 0.6⟩]
  operatorWords := ["operator", "apply", "compose", "transform"]
  operatorEffect := [⟨.operator, 1.4⟩, ⟨.physics, 0.7⟩]
  domainTrigger := "zone"
  domainEffect := [⟨.navigation, 1.3⟩, ⟨.status, 0.8⟩]
  bandLeader := .physics
  bandSecondary := .operator
  bandLow := 85.0
  bandHigh := 130.0
  bandSecondaryFloor := 0.05
  bandTransfer := 0.25
  lowSignalMax := 0.15
  lowSignalShare := 0.6
  lowSignalTransfer := 0.5

end Config.Default

def Config.default : Config α where
  features := Config.Default.features
  channels := Config.Default.channels
  evidence := Config.Default.evidence
  suppression := Config.Default.suppression
  bridge := Config.Default.bridge
  noSignalWeight := 1.05

instance : Inhabited (Config α) := ⟨Config.default⟩

end TextIntent
