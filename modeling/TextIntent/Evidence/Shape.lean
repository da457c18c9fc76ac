import TextIntent.Config.Basic

/-! Evidence from the shape of a signature: how symmetric, how concentrated and how even it is. -/
namespace TextIntent.Evidence

open Scalar

structure Shape (α : Type) where
  /-- One for a signature that reads the same from both ends. -/
  symmetry : α
  /-- One if a single heated component stands out, else zero. -/
  concentration : α
  /-- One for a signature with equal components, at least zero. -/
  uniformity : α

variable {α : Type} [Scalar α]

/-- One less the mean difference of slots at the same distance from the two ends. -/
def symmetry (v : SlotVector α) : α :=
  1 - sum (v.zipWith (fun x y => Scalar.abs (x - y)) v.reverse).toList / 10.0

/-- The ratio of the largest component to the mean. -/
def crest (v : SlotVector α) : α := peak v.toList / (Scalar.abs (sum v.toList / 10.0) + epsilon)

/-- The mean squared distance from the mean. -/
def variance (v : SlotVector α) : α :=
  let mean := sum v.toList / 10.0
  sum (v.map fun x => (x - mean) * (x - mean)).toList / (10.0 + epsilon)

def Shape.of (e : EvidenceSettings α) (signature heated : SlotVector α) : Shape α where
  symmetry := Evidence.symmetry signature
  concentration := if e.concentrationThreshold ≤ crest heated then 1 else 0
  uniformity := clamp 0 1 (1 - sqrt (variance signature))

/-- Adds a feature to the categories it is routed to. -/
def route (routes : List (Route α)) (feature : α) (scores : Scores α) : Scores α :=
  routes.foldl (fun scores r => scores.modify r.category (· + r.weight * feature)) scores

def shape (e : EvidenceSettings α) (signature heated : SlotVector α) : Scores α :=
  let f := Shape.of e signature heated
  (route e.uniformityRoutes f.uniformity
    (route e.concentrationRoutes f.concentration
      (route e.symmetryRoutes f.symmetry PerCategory.zero))).normalized

end TextIntent.Evidence
