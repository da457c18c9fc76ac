import TextIntent.Category
import TextIntent.Channel
import TextIntent.Rule
import TextIntent.Decimal.Style

/-! What the classifier reports while it works, each event with its level and its wording. -/
namespace TextIntent

inductive Level where
  | warning
  | info
  | debug
  deriving DecidableEq, Repr

def Level.label : Level → String
  | warning => "WARN"
  | info => "INFO"
  | debug => "DEBUG"

inductive Event (α : Type) where
  /-- A vector of the wrong length was turned down. -/
  | lengthRejected (expected actual : Nat)
  /-- An undefined value was replaced by a bound. -/
  | undefinedConfined (bound : α)
  /-- An infinite value was replaced by a bound. -/
  | infiniteConfined (bound : α)
  | filterUpdated (channel : Channel) (rate : α)
  /-- Feedback moved the masses of two categories to these values. -/
  | massUpdated (predicted : Category) (predictedMass : α) (actual : Category) (actualMass : α)
  | stateRestored
  | classified (category : Category) (confidence : α) (channel : Channel) (rule : Option Rule)
  deriving Repr

namespace Event

def level {α : Type} : Event α → Level
  | lengthRejected .. | undefinedConfined _ | infiniteConfined _ => .warning
  | filterUpdated .. | massUpdated .. | stateRestored => .info
  | classified .. => .debug

open Decimal (fixed shortestText)

def message : Event Float → String
  | lengthRejected expected actual =>
    s!"rejected vector of length {actual}, expected {expected}"
  | undefinedConfined bound => "clamp_score: NaN detected, clamping to " ++ fixed 4 bound
  | infiniteConfined bound => "clamp_score: Inf detected, clamping to " ++ fixed 4 bound
  | filterUpdated channel rate => s!"{channel.name} filter updated (lr={shortestText rate})"
  | massUpdated predicted predictedMass actual actualMass =>
    s!"attractor mass updated: {predicted.name}={fixed 3 predictedMass}, "
      ++ s!"{actual.name}={fixed 3 actualMass}"
  | stateRestored => "engine state restored"
  | classified category confidence channel rule =>
    let rule := match rule with
      | none => "None"
      | some r => s!"Some({r.title})"
    s!"classified as {category.name} (confidence {fixed 4 confidence}, "
      ++ s!"channel {channel.name}, rule {rule})"

end Event
end TextIntent
