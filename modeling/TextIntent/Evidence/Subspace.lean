import TextIntent.Config.Basic

/-! Evidence from fixed linear combinations of the signature. -/
namespace TextIntent.Evidence

open Scalar

variable {α : Type} [Scalar α]

/-- The part of the signature along the row of a category, moved by the offset and cut off at
zero. -/
def projection (e : EvidenceSettings α) (signature : SlotVector α) (c : Category) : α :=
  larger (e.subspaceOffset + SlotVector.dot (e.subspace.get c) signature) 0

def subspace (e : EvidenceSettings α) (signature : SlotVector α) : Scores α :=
  (PerCategory.ofFn (projection e signature) : Scores α).normalized

end TextIntent.Evidence
