import TextIntent.Config.Vocabulary

/-! Which configurations are accepted. The demands on a configuration form one list of checks, each
with the fault it finds; `fault?` is the first of these, and a configuration is accepted when there
is none. -/
namespace TextIntent

open Scalar

section Demands

variable {α : Type} [Scalar α]

/-- The value is neither undefined nor infinite. -/
def demandFinite (q : Quantity) (x : α) : Option (ConfigFault α) :=
  if isFinite x then none else some (.notFinite q x)

def demandPositive (q : Quantity) (x : α) : Option (ConfigFault α) :=
  (demandFinite q x).or (if x ≤ 0 then some (.notPositive q x) else none)

def demandNonnegative (q : Quantity) (x : α) : Option (ConfigFault α) :=
  (demandFinite q x).or (if x < 0 then some (.negative q x) else none)

/-- The value lies between zero and one. -/
def demandUnit (q : Quantity) (x : α) : Option (ConfigFault α) :=
  if 0 ≤ x ∧ x ≤ 1 then none else some (.outsideUnit q x)

end Demands

namespace Config

variable {α : Type} [Scalar α]

def featureChecks (f : FeatureSettings α) : List (Option (ConfigFault α)) :=
  [if f.slots.length = 10 then none else some (.slotCount 10 f.slots.length)]
    ++ f.slots.mapIdx (fun i slot => demandNonnegative (.slotWeight i) slot.weight)
    ++ f.reference.toList.mapIdx (fun i r => demandPositive (.reference i) r)
    ++ [demandPositive .partnerSum f.partnerSum,
      demandPositive .couplingSpread f.couplingSpread,
      demandNonnegative .partnerBonus f.partnerBonus,
      demandPositive .temperature f.temperature,
      demandPositive .charScale f.charScale]

/-- The settings at a position belong to the channel of that position. -/
def channelChecks (position : Nat) (channel : Channel) (s : ChannelSettings α) :
    List (Option (ConfigFault α)) :=
  [if s.kind = channel then none else some (.channelOrder position channel s.kind),
    demandFinite (.bias s.kind) s.bias,
    demandPositive (.scale s.kind) s.scale,
    demandNonnegative (.jitter s.kind) s.jitter,
    demandNonnegative (.trust s.kind) s.trust]
    ++ s.affinity.toList.map (demandFinite (.affinity s.kind))

def evidenceChecks (e : EvidenceSettings α) : List (Option (ConfigFault α)) :=
  [demandNonnegative .phraseBonus e.phraseBonus,
    demandNonnegative .noMatchWeight e.noMatchWeight,
    demandFinite .subspaceOffset e.subspaceOffset,
    demandPositive .concentrationThreshold e.concentrationThreshold]
    ++ (e.subspace.toList.flatMap Vector.toList).map (demandFinite .subspaceCoefficient)
    ++ (e.symmetryRoutes ++ e.concentrationRoutes ++ e.uniformityRoutes).map
      (fun r => demandNonnegative .routeWeight r.weight)

def suppressionChecks (s : SuppressionSettings α) : List (Option (ConfigFault α)) :=
  [demandNonnegative .boostIncrement s.boostIncrement,
    demandNonnegative .dominance s.dominance,
    demandNonnegative .activationThreshold s.activationThreshold,
    demandNonnegative .massPenalty s.massPenalty,
    demandNonnegative .massRelief s.massRelief]
    ++ s.pairs.flatMap fun p =>
      [if p.first = p.second then some (.pairedWithItself p.first) else none,
        demandNonnegative .repulsion p.repulsion]

def bridgeChecks (b : BridgeSettings α) : List (Option (ConfigFault α)) :=
  [demandFinite .center b.center,
    demandPositive .warp b.warp,
    demandFinite .bandLow b.bandLow,
    demandFinite .bandHigh b.bandHigh,
    if b.bandHigh < b.bandLow then some (.bandReversed b.bandLow b.bandHigh) else none,
    demandUnit .bandTransfer b.bandTransfer,
    demandUnit .lowSignalShare b.lowSignalShare,
    demandUnit .lowSignalTransfer b.lowSignalTransfer,
    demandNonnegative .bandSecondaryFloor b.bandSecondaryFloor,
    demandNonnegative .lowSignalMax b.lowSignalMax]
    ++ (b.structuralEffect ++ b.operatorEffect ++ b.domainEffect).map
      (fun a => demandNonnegative .adjustment a.factor)
    ++ [if Text.isVacant b.domainTrigger then some .triggerVacant else none]

/-- The decision for texts without a signal has to lean to `unknown`. -/
def noSignalChecks (weight : α) : List (Option (ConfigFault α)) :=
  [(demandFinite .noSignalWeight weight).or
    (if weight ≤ 1 then some (.notAboveOne .noSignalWeight weight) else none)]

/-- Every demand on a configuration, with the fault of each that is not met. -/
def checks (config : Config α) : List (Option (ConfigFault α)) :=
  featureChecks config.features
    ++ channelChecks 0 .conservative config.channels.conservative
    ++ channelChecks 1 .balanced config.channels.balanced
    ++ channelChecks 2 .liberal config.channels.liberal
    ++ evidenceChecks config.evidence
    ++ suppressionChecks config.suppression
    ++ bridgeChecks config.bridge
    ++ noSignalChecks config.noSignalWeight
    ++ config.vocabularyChecks

/-- The first demand that is not met. -/
def fault? (config : Config α) : Option (ConfigFault α) := config.checks.findSome? id

/-- The configuration meets every demand. -/
def Accepted (config : Config α) : Prop := config.fault? = none

theorem accepted_iff {config : Config α} :
    config.Accepted ↔ ∀ check ∈ config.checks, check = none := by
  simp [Accepted, fault?]

def validate (config : Config α) : Except (Fault α) Unit :=
  match config.fault? with
  | none => .ok ()
  | some fault => .error (.config fault)

theorem validate_eq_ok_iff {config : Config α} : config.validate = .ok () ↔ config.Accepted := by
  unfold validate Accepted
  split
  · next h => simp [h]
  · next h => simp [h]

end Config
end TextIntent
