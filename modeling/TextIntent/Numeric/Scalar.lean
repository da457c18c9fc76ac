/-! The numbers a classification is computed with. Every stage is written over `Scalar`, so one
definition runs in binary floating point and can also be read over the real numbers, where nothing
is rounded. A value that is not a number is recognised by failing `x ≤ x`. -/
namespace TextIntent

/-- Ordered arithmetic with the functions a classification calls. `isFinite` holds of every value
that is neither infinite nor undefined, and `maxFinite` is the largest of those. -/
class Scalar (α : Type) extends Zero α, One α, NatCast α, OfScientific α,
    Add α, Sub α, Mul α, Div α, Neg α, LT α, LE α where
  decLT : DecidableLT α
  decLE : DecidableLE α
  isFinite : α → Bool
  maxFinite : α
  abs : α → α
  sqrt : α → α
  exp : α → α
  tanh : α → α
  /-- The natural logarithm of one plus the argument. -/
  logOnePlus : α → α

namespace Scalar

variable {α : Type} [Scalar α]

instance : DecidableLT α := Scalar.decLT
instance : DecidableLE α := Scalar.decLE

/-- The value answers no comparison, not even with itself. -/
def isNaN (x : α) : Bool := !decide (x ≤ x)

/-- Equal to zero, whatever its sign. -/
def isZero (x : α) : Bool := decide (x ≤ 0) && decide (0 ≤ x)

/-- Guards the denominators of a classification. -/
def epsilon : α := 1e-9

/-- The larger of two values; of an undefined and a defined one, the defined. -/
def larger (x y : α) : α :=
  if isNaN x then y else if x < y then y else x

/-- The nearest value between the bounds; an undefined value stays undefined. -/
def clamp (lo hi x : α) : α :=
  if x < lo then lo else if hi < x then hi else x

/-- Sums from the left, starting at zero. Rounding makes the order part of the result. -/
def sum (xs : List α) : α := xs.foldl (· + ·) 0

/-- The largest of zero and the defined values. -/
def peak (xs : List α) : α := xs.foldl larger 0

@[simp] theorem sum_nil : sum ([] : List α) = 0 := rfl

@[simp] theorem peak_nil : peak ([] : List α) = 0 := rfl

theorem sum_concat (xs : List α) (x : α) : sum (xs ++ [x]) = sum xs + x := by
  simp [sum]

theorem peak_concat (xs : List α) (x : α) : peak (xs ++ [x]) = larger (peak xs) x := by
  simp [peak]

theorem larger_of_isNaN {x : α} (h : isNaN x = true) (y : α) : larger x y = y := by
  simp [larger, h]

end Scalar
end TextIntent
