import TextIntent.Numeric.Scalar
import TextIntent.Numeric.Elementary

/-! Double-precision numbers as the scalars of a running classification. -/
namespace TextIntent

instance : Scalar Float where
  zero := 0
  one := 1
  natCast := Float.ofNat
  ofScientific := Float.ofScientific
  add := Float.add
  sub := Float.sub
  mul := Float.mul
  div := Float.div
  neg := Float.neg
  lt x y := x < y
  le x y := x ≤ y
  decLT x y := inferInstanceAs (Decidable (x < y))
  decLE x y := inferInstanceAs (Decidable (x ≤ y))
  isFinite := Float.isFinite
  maxFinite := Binary64.largest
  abs := Float.abs
  sqrt := Float.sqrt
  exp := Binary64.exp
  tanh := Binary64.tanh
  logOnePlus := Binary64.logOnePlus

end TextIntent
