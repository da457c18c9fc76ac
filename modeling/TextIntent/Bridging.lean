import TextIntent.Config.Basic

/-! Bridging: the last adjustment of the scores. Five rules are tried in order, and the first whose
condition holds takes effect alone. -/
namespace TextIntent

open Scalar

variable {α : Type} [Scalar α]

/-- Multiplies scores, one adjustment after the other. -/
def Adjustment.applyAll (adjustments : List (Adjustment α)) (scores : Scores α) : Scores α :=
  adjustments.foldl (fun scores a => scores.modify a.category (· * a.factor)) scores

/-- Moves a share of one category's score to another. -/
def PerCategory.transfer (scores : Scores α) (source target : Category) (share : α) : Scores α :=
  let moved := scores.get source * share
  (scores.modify source (· - moved)).modify target (· + moved)

theorem PerCategory.get_transfer (scores : Scores α) {source target : Category} (h : source ≠ target)
    (share : α) (c : Category) : (scores.transfer source target share).get c =
      if c = target then scores.get target + scores.get source * share
      else if c = source then scores.get source - scores.get source * share else scores.get c := by
  simp only [transfer, get_modify]
  by_cases ht : c = target
  · simp [ht, Ne.symm h]
  · by_cases hs : c = source
    · simp [hs, h]
    · simp [ht, hs]

namespace BridgeSettings

/-- The reference value of the dominant slot, drawn towards the center. -/
def position (b : BridgeSettings α) (reference signature : SlotVector α) : α :=
  let x := reference[SlotVector.dominant signature]
  b.center + (x - b.center) / b.warp

/-- The condition of a rule, for a text in small letters. -/
def holds (b : BridgeSettings α) (reference : SlotVector α) (lower : String)
    (signature : SlotVector α) (scores : Scores α) : Rule → Bool
  | .structuralVocabulary =>
    Text.occursAny b.structuralWords lower && !Text.occursAny b.physicsCues lower
      && !Text.occursAny b.operatorSymbols lower
  | .operatorKeyword => Text.occursAny b.operatorWords lower
  | .domainTrigger => Text.containsWord lower b.domainTrigger
  | .positionBand =>
    let position := b.position reference signature
    scores.leader = b.bandLeader && (b.bandLow ≤ position && position ≤ b.bandHigh)
      && b.bandSecondaryFloor ≤ scores.get b.bandSecondary
  | .lowSignal =>
    let leader := scores.leader
    leader ≠ .unknown && b.lowSignalShare < scores.get leader / (scores.total + epsilon)
      && peak signature.toList < b.lowSignalMax

/-- The effect of a rule on the scores. -/
def effect (b : BridgeSettings α) (scores : Scores α) : Rule → Scores α
  | .structuralVocabulary => Adjustment.applyAll b.structuralEffect scores
  | .operatorKeyword => Adjustment.applyAll b.operatorEffect scores
  | .domainTrigger => Adjustment.applyAll b.domainEffect scores
  | .positionBand => scores.transfer b.bandLeader b.bandSecondary b.bandTransfer
  | .lowSignal => scores.transfer scores.leader .unknown b.lowSignalTransfer

/-- The first rule that holds. -/
def rule? (b : BridgeSettings α) (reference : SlotVector α) (lower : String)
    (signature : SlotVector α) (scores : Scores α) : Option Rule :=
  Rule.all.find? (b.holds reference lower signature scores)

/-- Scores after the first rule that holds, none of them below zero, and that rule. Without one the
scores stay as they are. -/
def bridge (b : BridgeSettings α) (reference : SlotVector α) (lower : String)
    (signature : SlotVector α) (scores : Scores α) :
    Traced (Event α) (Scores α × Option Rule) :=
  match b.rule? reference lower signature scores with
  | none => return (scores, none)
  | some rule => do return (← (b.effect scores rule).nonnegative, some rule)

end BridgeSettings
end TextIntent
