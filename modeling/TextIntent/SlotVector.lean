import TextIntent.Numeric.Scalar

/-! Vectors with one number for each of the ten slots of a signature. -/
namespace TextIntent

open Scalar

/-- One number per slot. -/
abbrev SlotVector (α : Type) := Vector α 10

namespace SlotVector

variable {α : Type}

def ofList? (xs : List α) : Option (SlotVector α) :=
  if h : xs.length = 10 then some ⟨xs.toArray, by simpa using h⟩ else none

@[simp] theorem ofList?_toList (v : SlotVector α) : ofList? v.toList = some v := by
  cases v with
  | mk xs h => simp [ofList?, Vector.toList, h]

variable [Scalar α]

def zero : SlotVector α := Vector.replicate 10 0

/-- Sum of products, slot by slot from the left. -/
def dot (v w : SlotVector α) : α := sum (v.zipWith (· * ·) w).toList

/-- Every component equals zero. -/
def isZero (v : SlotVector α) : Bool := v.all Scalar.isZero

/-- The slot of the largest component, the first one of equals. -/
def dominant (v : SlotVector α) : Fin 10 :=
  (List.finRange 10).foldl (fun best i => if v[best] < v[i] then i else best) 0

end SlotVector
end TextIntent
