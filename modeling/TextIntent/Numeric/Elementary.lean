import TextIntent.Numeric.Binary64

/-! The exponential, hyperbolic tangent and logarithm of doubles. Each argument is taken apart into
integers, the function is summed there as a fixed-point series with two hundred spare bits, and the
result is rounded once. -/
namespace TextIntent.Binary64

namespace FixedPoint

/-- One, in units of the last place. -/
def one : Nat := 1 <<< 256

/-- The natural logarithm of two. -/
def logTwo : Nat :=
  80260960185991308862233904206310070533990667611589946606122867505419956976171

/-- The first sixty terms of the exponential series, by Horner's rule. -/
def expSeries (r : Nat) : Nat :=
  (List.range 60).foldr (fun k tail => one + r * tail / (one * (k + 1))) one

/-- The inverse hyperbolic tangent of `w`, for `w` up to one third. -/
def artanhSeries (w : Nat) : Nat :=
  let square := w * w / one
  w * (List.range 84).foldr (fun k tail => one / (2 * k + 1) + square * tail / one) 0 / one

/-- `significand · 2 ^ exponent`, cut off after the last place. -/
def ofBinary (significand : Nat) (exponent : Int) : Nat :=
  match exponent + 256 with
  | .ofNat k => significand <<< k
  | .negSucc k => significand >>> (k + 1)

/-- Numerator and denominator of the exponential of a nonnegative argument. -/
def growth (x : Nat) : Nat × Nat :=
  (expSeries (x % logTwo) <<< (x / logTwo), one)

/-- Numerator and denominator of the exponential of the negated argument. -/
def decay (x : Nat) : Nat × Nat :=
  let k := (x + (logTwo - 1)) / logTwo
  (expSeries (k * logTwo - x), one <<< k)

/-- The logarithm of `a / b`, for `b ≤ a`. -/
def log (a b : Nat) : Nat :=
  let guess := a.log2 - b.log2
  let k := if a < b <<< guess then guess - 1 else guess
  let c := b <<< k
  k * logTwo + 2 * artanhSeries ((a - c) * one / (a + c))

end FixedPoint

/-- The exponent of the leading bit of `significand · 2 ^ exponent`. -/
def magnitude (significand : Nat) (exponent : Int) : Int :=
  (significand.log2 : Int) + exponent

/-- From `2 ^ 10` on the exponential is infinite, or zero for a negative argument. -/
def exp (x : Float) : Float :=
  match parts x with
  | .undefined => undefined
  | .infinite false => infinity
  | .infinite true => 0
  | .finite false m q =>
    if 10 ≤ magnitude m q then infinity
    else
      let r := FixedPoint.growth (FixedPoint.ofBinary m q)
      ofRatio false r.1 r.2
  | .finite true m q =>
    if 10 ≤ magnitude m q then 0
    else
      let r := FixedPoint.decay (FixedPoint.ofBinary m q)
      ofRatio false r.1 r.2

/-- Below `2 ^ (-30)` the argument is its own tangent, and from `2 ^ 5` on the tangent is one. -/
def tanh (x : Float) : Float :=
  match parts x with
  | .undefined => undefined
  | .infinite negative => withSign negative 1
  | .finite negative m q =>
    if m = 0 ∨ magnitude m q < -30 then x
    else if 5 ≤ magnitude m q then withSign negative 1
    else
      let r := FixedPoint.decay (FixedPoint.ofBinary (2 * m) q)
      ofRatio negative (r.2 - r.1) (r.2 + r.1)

/-- Below `2 ^ (-60)` the argument is its own logarithm; up to minus one there is none. -/
def logOnePlus (x : Float) : Float :=
  match parts x with
  | .undefined => undefined
  | .infinite false => infinity
  | .infinite true => undefined
  | .finite negative m q =>
    if m = 0 ∨ magnitude m q < -60 then x
    else
      let b := 1 <<< (-q).toNat
      let step := m <<< q.toNat
      if !negative then ofRatio false (FixedPoint.log (b + step) b) FixedPoint.one
      else if step < b then ofRatio true (FixedPoint.log b (b - step)) FixedPoint.one
      else if step = b then -infinity
      else undefined

end TextIntent.Binary64
