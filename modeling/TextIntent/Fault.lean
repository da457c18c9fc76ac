import TextIntent.Category
import TextIntent.Channel
import TextIntent.Decimal.Style
import TextIntent.Text.Quoted

/-! Everything that can be wrong with a configuration or an argument. A fault holds its cause and
the offending values; its wording is in `message`. -/
namespace TextIntent

/-- A number of the configuration that is checked on its own. -/
inductive Quantity where
  | slotWeight (slot : Nat)
  | reference (position : Nat)
  | partnerSum
  | couplingSpread
  | partnerBonus
  | temperature
  | charScale
  | bias (channel : Channel)
  | scale (channel : Channel)
  | jitter (channel : Channel)
  | trust (channel : Channel)
  | affinity (channel : Channel)
  | phraseBonus
  | noMatchWeight
  | subspaceOffset
  | concentrationThreshold
  | subspaceCoefficient
  | routeWeight
  | boostIncrement
  | dominance
  | activationThreshold
  | massPenalty
  | massRelief
  | repulsion
  | center
  | warp
  | bandLow
  | bandHigh
  | bandTransfer
  | lowSignalShare
  | lowSignalTransfer
  | bandSecondaryFloor
  | lowSignalMax
  | adjustment
  | noSignalWeight
  deriving DecidableEq, Repr

def Quantity.name : Quantity → String
  | slotWeight slot => s!"slot {slot} weight"
  | reference position => s!"reference_sequence[{position}]"
  | partnerSum => "mirror_sum"
  | couplingSpread => "coupling_spread"
  | partnerBonus => "mirror_bonus"
  | temperature => "temperature"
  | charScale => "char_scale"
  | bias channel => s!"{channel.name} bias"
  | scale channel => s!"{channel.name} scale"
  | jitter channel => s!"{channel.name} jitter"
  | trust channel => s!"{channel.name} trust"
  | affinity channel => s!"{channel.name} affinity"
  | phraseBonus => "phrase_bonus"
  | noMatchWeight => "no_match_unknown_weight"
  | subspaceOffset => "subspace_offset"
  | concentrationThreshold => "concentration_threshold"
  | subspaceCoefficient => "subspace coefficient"
  | routeWeight => "shape route weight"
  | boostIncrement => "boost_increment"
  | dominance => "dominance"
  | activationThreshold => "activation_threshold"
  | massPenalty => "mass_penalty"
  | massRelief => "mass_relief"
  | repulsion => "repulsion"
  | center => "center"
  | warp => "warp"
  | bandLow => "band_low"
  | bandHigh => "band_high"
  | bandTransfer => "band_transfer"
  | lowSignalShare => "low_signal_share"
  | lowSignalTransfer => "low_signal_transfer"
  | bandSecondaryFloor => "band_secondary_floor"
  | lowSignalMax => "low_signal_max"
  | adjustment => "bridge factor"
  | noSignalWeight => "signal_free_unknown_weight"

/-- A table of keywords that repeats part of the lexical table. -/
inductive WordTable where
  | slot (category : Category)
  | structuralKeywords
  | physicsCues
  | operatorKeywords
  | discriminative (category : Category)
  deriving DecidableEq, Repr

def WordTable.name : WordTable → String
  | slot category => s!"{category.name} substrate slot"
  | structuralKeywords => "structural_keywords"
  | physicsCues => "physics_cues"
  | operatorKeywords => "operator_keywords"
  | discriminative category => s!"{category.name} discriminative keywords"

inductive ConfigFault (α : Type) where
  | unreadable
  | slotCount (needed given : Nat)
  | notFinite (quantity : Quantity) (value : α)
  | notPositive (quantity : Quantity) (value : α)
  | negative (quantity : Quantity) (value : α)
  | outsideUnit (quantity : Quantity) (value : α)
  | notAboveOne (quantity : Quantity) (value : α)
  | channelOrder (position : Nat) (needed given : Channel)
  | pairedWithItself (category : Category)
  | bandReversed (low high : α)
  | triggerVacant
  | wordsDiffer (table : WordTable) (words lexical : List String)
  | wordMissing (table : WordTable) (word : String)
  deriving DecidableEq, Repr

inductive NumericalFault (α : Type) where
  | signatureNotFinite (position : Nat) (value : α)
  | signatureNegative (position : Nat) (value : α)
  | rateNotFinite (rate : α)
  | gradientNotFinite (position : Nat) (value : α)
  | filterNotFinite (channel : Channel)
  | massInvalid (category : Category) (value : α)
  deriving DecidableEq, Repr

inductive Fault (α : Type) where
  | length (expected actual : Nat)
  | config (fault : ConfigFault α)
  | numerical (fault : NumericalFault α)
  | unknownCategory (text : String)
  deriving DecidableEq, Repr

open Decimal (shortestText)

def ConfigFault.message : ConfigFault Float → String
  | unreadable => "JSON parse error"
  | slotCount needed given => s!"substrate needs {needed} slots, got {given}"
  | notFinite quantity value => s!"{quantity.name} must be finite, got {shortestText value}"
  | notPositive quantity value => s!"{quantity.name} must be > 0, got {shortestText value}"
  | negative quantity value => s!"{quantity.name} must be >= 0, got {shortestText value}"
  | outsideUnit quantity value => s!"{quantity.name} must be in [0, 1], got {shortestText value}"
  | notAboveOne quantity value => s!"{quantity.name} must be > 1, got {shortestText value}"
  | channelOrder position needed given =>
    s!"channel {position} must be {needed.name}, got {given.name}"
  | pairedWithItself category =>
    s!"confusable pair must join two categories, got {category.name} twice"
  | bandReversed low high =>
    s!"band_low must be <= band_high, got {shortestText low} > {shortestText high}"
  | triggerVacant => "domain_trigger must not be empty"
  | wordsDiffer table words lexical =>
    s!"{table.name} {Text.quotedList words} must match the lexical table "
      ++ Text.quotedList lexical
  | wordMissing table word =>
    table.name ++ ": \"" ++ word ++ "\" is missing from the lexical table"

def NumericalFault.message : NumericalFault Float → String
  | signatureNotFinite position value =>
    s!"signature[{position}] is not finite: {shortestText value}"
  | signatureNegative position value =>
    s!"signature[{position}] must be >= 0, got {shortestText value}"
  | rateNotFinite rate => s!"learning_rate is not finite: {shortestText rate}"
  | gradientNotFinite position value =>
    s!"gradient[{position}] is not finite: {shortestText value}"
  | filterNotFinite channel => s!"{channel.name} filter contains a non-finite value"
  | massInvalid category value =>
    s!"attractor mass for {category.name} must be finite and >= 0, got {shortestText value}"

def Fault.message : Fault Float → String
  | length expected actual => s!"dimension mismatch: expected {expected}, got {actual}"
  | config fault => s!"config error: {fault.message}"
  | numerical fault => s!"numerical error: {fault.message}"
  | unknownCategory text => s!"unknown category: {text}"

/-- The category that a text names. A text that names none is turned down as it was given. -/
def Category.parse {α : Type} (s : String) : Except (Fault α) Category :=
  match Category.parse? s with
  | some c => .ok c
  | none => .error (.unknownCategory s)

end TextIntent
