import TextIntent.Evidence.Lexical
import TextIntent.Evidence.Shape
import TextIntent.Evidence.Subspace

/-! Fusion of the three kinds of evidence. Each goes with one channel, and counts by the trust in
the channel and its activation. -/
namespace TextIntent

open Scalar

variable {α : Type} [Scalar α]

/-- The evidence of each channel: words, linear read-outs and shape. -/
def Evidence.gather (e : EvidenceSettings α) (lower : String) (signature heated : SlotVector α) :
    PerChannel (Scores α) :=
  ⟨Evidence.lexical e lower, Evidence.subspace e signature, Evidence.shape e signature heated⟩

/-- The weighted sum of the evidence, channel after channel. -/
def fuse (evidence : PerChannel (Scores α)) (activations trust : PerChannel α) : Scores α :=
  PerCategory.ofFn fun c => sum (Channel.all.map fun channel =>
    trust.get channel * activations.get channel * (evidence.get channel).get c)

/-- The channel whose evidence for a category weighs most, the first one of equals. Undefined and
infinitely negative weights are passed over. -/
def strongestChannel (evidence : PerChannel (Scores α)) (trust : PerChannel α) (c : Category) :
    Channel :=
  let weight (channel : Channel) : α := (evidence.get channel).get c * trust.get channel
  let better (best : Option Channel) (channel : Channel) : Bool :=
    match best with
    | none => isFinite (weight channel) || 0 < weight channel
    | some other => weight other < weight channel
  let best := Channel.all.foldl
    (fun best channel => if better best channel then some channel else best) none
  best.getD .conservative

end TextIntent
