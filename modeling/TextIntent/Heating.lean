import TextIntent.Config.Basic

/-! Heating: a signature is multiplied by a square matrix whose rows sum to one. Slots whose
reference values are close are coupled strongly, and partners get an extra share. -/
namespace TextIntent

open Scalar

variable {α : Type} [Scalar α]

/-- A number for each pair of slots, by rows. -/
abbrev SlotMatrix (α : Type) := Vector (SlotVector α) 10

namespace SlotMatrix

/-- The coupling of two reference values before rows are scaled. -/
def coupling (f : FeatureSettings α) (r s : α) : α :=
  let near := exp (-Scalar.abs (r - s) / f.couplingSpread)
  if Scalar.abs (r + s - f.partnerSum) < 1e-9 then near + f.partnerBonus else near

/-- Couplings, each divided by the sum of its row. -/
def ofFeatures (f : FeatureSettings α) : SlotMatrix α :=
  f.reference.map fun r =>
    let row := f.reference.map (coupling f r)
    let total := sum row.toList
    row.map (· / total)

/-- The product of a row vector and the matrix. -/
def apply (m : SlotMatrix α) (v : SlotVector α) : SlotVector α :=
  Vector.ofFn fun j => SlotVector.dot v (m.map fun row => row.get j)

end SlotMatrix

/-- A heated signature. -/
structure Heated (α : Type) where
  values : SlotVector α
  /-- The sum of the squares. -/
  energy : α

/-- Heats a signature with a matrix and a temperature. -/
def heat (m : SlotMatrix α) (temperature : α) (signature : SlotVector α) : Heated α :=
  let values := (m.apply signature).map (· * temperature)
  ⟨values, SlotVector.dot values values⟩

end TextIntent
