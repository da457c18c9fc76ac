import TextIntent.Channel.Jitter
import TextIntent.Checked
import TextIntent.Config.Basic

/-! The gate of a channel: its filter is multiplied with the heated signature, and the response
curve turns the product into a number from zero to one. Filters change only by `adjusted`, and a
gate counts what it has let through. -/
namespace TextIntent

open Scalar

/-- What a channel has let through. -/
structure Counters (α : Type) where
  /-- The sum of all activations. -/
  flow : α
  activations : UInt64
  deriving DecidableEq

/-- What changes about a channel over time. -/
structure Gate (α : Type) where
  filter : SlotVector α
  counters : Counters α

variable {α : Type} [Scalar α]

def Counters.zero : Counters α := ⟨0, 0⟩

/-- Counts one more activation. The number of activations wraps around after `2 ^ 64`. -/
def Counters.add (c : Counters α) (activation : α) : Counters α :=
  ⟨c.flow + activation, c.activations + 1⟩

def Gate.count (g : Gate α) (activation : α) : Gate α :=
  { g with counters := g.counters.add activation }

namespace ChannelSettings

/-- The filter of a channel that has not been adjusted. -/
def initialFilter (s : ChannelSettings α) : SlotVector α :=
  Jitter.perturb s.seed s.jitter s.affinity

def initialGate (s : ChannelSettings α) : Gate α := ⟨s.initialFilter, .zero⟩

/-- The response to a heated signature, from zero to one. -/
def respond (s : ChannelSettings α) (filter heated : SlotVector α) : Traced (Event α) α :=
  confine 0 1 (s.scale * s.activation.apply (SlotVector.dot heated filter + s.bias))

/-- The filter after a step against the gradient. Length, rate and gradient are checked in this
order. -/
def adjusted (s : ChannelSettings α) (filter : SlotVector α) (gradient : List α) (rate : α) :
    Checked α (SlotVector α) := do
  demandLength 10 gradient.length
  if !isFinite rate then throw (.numerical (.rateNotFinite rate))
  let bad (i : Nat) (g : α) := if isFinite g then none else some (.gradientNotFinite i g)
  match (gradient.mapIdx bad).findSome? id, SlotVector.ofList? gradient with
  | some fault, _ => throw (.numerical fault)
  | none, none => throw (.length 10 gradient.length)
  | none, some g =>
    Checked.report (.filterUpdated s.kind rate)
    return filter.zipWith (fun f g => f - rate * g) g

end ChannelSettings

/-- The gates of all channels. -/
abbrev Gates (α : Type) := PerChannel (Gate α)

namespace Gates

def initial (settings : PerChannel (ChannelSettings α)) : Gates α :=
  settings.map (·.initialGate)

/-- The responses of all channels to a heated signature. -/
def respond (settings : PerChannel (ChannelSettings α)) (gates : Gates α)
    (heated : SlotVector α) : Traced (Event α) (PerChannel α) := do
  let one (c : Channel) := (settings.get c).respond (gates.get c).filter heated
  return ⟨← one .conservative, ← one .balanced, ← one .liberal⟩

/-- Counts an activation of every channel. -/
def count (gates : Gates α) (activations : PerChannel α) : Gates α :=
  PerChannel.ofFn fun c => (gates.get c).count (activations.get c)

/-- Counts an activation of one channel. -/
def countAt (gates : Gates α) (c : Channel) (activation : α) : Gates α :=
  gates.set c ((gates.get c).count activation)

def filters (gates : Gates α) : PerChannel (SlotVector α) := gates.map (·.filter)

def counters (gates : Gates α) : PerChannel (Counters α) := gates.map (·.counters)

/-- Replaces the filter of one channel. -/
def setFilter (gates : Gates α) (c : Channel) (filter : SlotVector α) : Gates α :=
  gates.set c { gates.get c with filter := filter }

/-- Replaces all filters. -/
def setFilters (gates : Gates α) (filters : PerChannel (SlotVector α)) : Gates α :=
  PerChannel.ofFn fun c => { gates.get c with filter := filters.get c }

end Gates
end TextIntent
