import TextIntent.Activation
import TextIntent.Category
import TextIntent.Channel
import TextIntent.Scores
import TextIntent.SlotVector

/-! Every number and word list a classification depends on, grouped by what uses it. -/
namespace TextIntent

/-- One slot of the signature: what it weighs if one of its words occurs. -/
structure Slot (α : Type) where
  weight : α
  words : List String
  deriving DecidableEq

structure CategoryWords where
  category : Category
  words : List String
  deriving DecidableEq

/-- Multiplies the score of one category. -/
structure Adjustment (α : Type) where
  category : Category
  factor : α
  deriving DecidableEq

/-- Sends a share of a shape feature to one category. -/
structure Route (α : Type) where
  category : Category
  weight : α
  deriving DecidableEq

/-- Two categories that are easily mistaken for each other. -/
structure ConfusablePair (α : Type) where
  first : Category
  second : Category
  repulsion : α
  deriving DecidableEq

/-- How a text becomes a signature, and how the signature is heated. -/
structure FeatureSettings (α : Type) where
  reference : SlotVector α
  /-- Two reference values with this sum are partners. -/
  partnerSum : α
  /-- Distance over which the coupling of reference values falls to `1 / e`. -/
  couplingSpread : α
  /-- Extra coupling between partners. -/
  partnerBonus : α
  temperature : α
  /-- Character codes are divided by this. -/
  charScale : α
  /-- Text without slot words is a signal from this many visible characters on. -/
  minSignalChars : UInt64
  slots : List (Slot α)
  deriving DecidableEq

structure ChannelSettings (α : Type) where
  kind : Channel
  activation : Activation
  bias : α
  /-- Multiplies the response. -/
  scale : α
  /-- The filter before jitter. -/
  affinity : SlotVector α
  /-- Half the width of the jitter. -/
  jitter : α
  seed : UInt64
  /-- Weight of the channel in the fusion. -/
  trust : α
  deriving DecidableEq

/-- The tables of the three kinds of evidence. -/
structure EvidenceSettings (α : Type) where
  lexical : List CategoryWords
  /-- Extra score of a keyword with a space in it. -/
  phraseBonus : α
  /-- Weight of `unknown` when no keyword occurs; the others weigh one. -/
  noMatchWeight : α
  subspace : PerCategory (SlotVector α)
  subspaceOffset : α
  /-- Ratio of the largest heated component to the mean from which a signature is concentrated. -/
  concentrationThreshold : α
  symmetryRoutes : List (Route α)
  concentrationRoutes : List (Route α)
  uniformityRoutes : List (Route α)
  deriving DecidableEq

structure SuppressionSettings (α : Type) where
  boostIncrement : α
  discriminative : List CategoryWords
  pairs : List (ConfusablePair α)
  /-- Strength of all repulsions. -/
  dominance : α
  /-- Both sides of a pair have to exceed this to repel each other. -/
  activationThreshold : α
  /-- Added to the mass of a category that was wrongly predicted. -/
  massPenalty : α
  /-- Taken from the mass of the category that was right. -/
  massRelief : α
  deriving DecidableEq

structure BridgeSettings (α : Type) where
  /-- The reference position that warping leaves in place. -/
  center : α
  /-- Distances from the center are divided by this. -/
  warp : α
  structuralWords : List String
  /-- Words that rule out the structural rule. -/
  physicsCues : List String
  /-- Symbols that rule out the structural rule. -/
  operatorSymbols : List String
  structuralEffect : List (Adjustment α)
  operatorWords : List String
  operatorEffect : List (Adjustment α)
  domainTrigger : String
  domainEffect : List (Adjustment α)
  bandLeader : Category
  bandSecondary : Category
  bandLow : α
  bandHigh : α
  /-- Least score of the secondary category under the band rule. -/
  bandSecondaryFloor : α
  /-- Share of the leader's score that moves to the secondary category. -/
  bandTransfer : α
  /-- Signatures whose components stay below this count as noise. -/
  lowSignalMax : α
  /-- Share of the total from which a leader on noise is distrusted. -/
  lowSignalShare : α
  /-- Share of the leader's score that then moves to `unknown`. -/
  lowSignalTransfer : α
  deriving DecidableEq

structure Config (α : Type) where
  features : FeatureSettings α
  channels : PerChannel (ChannelSettings α)
  evidence : EvidenceSettings α
  suppression : SuppressionSettings α
  bridge : BridgeSettings α
  /-- Weight of `unknown` for a text without any signal; the others weigh one. -/
  noSignalWeight : α
  deriving DecidableEq

/-- The weights of the channels in the fusion. -/
def Config.trust {α : Type} (config : Config α) : PerChannel α := config.channels.map (·.trust)

end TextIntent
