import TextIntent.Numeric.Rounding

/-! Double-precision numbers as integers. `parts` takes one apart into a significand and a power of
two, and `ofRatio` goes the other way: it rounds a ratio of natural numbers to the nearest double. -/
namespace TextIntent.Binary64

/-- A double by its class; a finite one is `± significand · 2 ^ exponent`. -/
inductive Parts where
  | undefined
  | infinite (negative : Bool)
  | finite (negative : Bool) (significand : Nat) (exponent : Int)
  deriving DecidableEq, Repr

/-- The leading bit of the significand of a normal double, its fifty-third from the right. -/
def leadingBit : Nat := 1 <<< 52

/-- The exponent of the smallest positive double. -/
def leastExponent : Int := -1074

def parts (x : Float) : Parts :=
  let bits := x.toBits.toNat
  let negative := decide (1 <<< 63 ≤ bits)
  let scale : Nat := (bits >>> 52) % 2048
  let fraction := bits % leadingBit
  if scale = 2047 then
    if fraction = 0 then .infinite negative else .undefined
  else if scale = 0 then .finite negative fraction leastExponent
  else .finite negative (leadingBit + fraction) ((scale : Int) - 1075)

/-- The bits of positive infinity, one above those of the largest finite double. -/
def infinityBits : Nat := 0x7ff0000000000000

def infinity : Float := Float.ofBits (UInt64.ofNat infinityBits)

def undefined : Float := Float.ofBits 0x7ff8000000000000

/-- The largest finite double. -/
def largest : Float := Float.ofBits 0x7fefffffffffffff

def withSign (negative : Bool) (x : Float) : Float := if negative then -x else x

/-- The natural numbers `a`, `b` with `a / b = n / d · 2 ^ (-e)`. -/
def shifted (n d : Nat) (e : Int) : Nat × Nat :=
  match e with
  | .ofNat k => (n, d <<< k)
  | .negSucc k => (n <<< (k + 1), d)

/-- The power of two at which `n / d` has its leading bit in the place of `leadingBit`, unless that
lies below every double. -/
def ratioExponent (n d : Nat) : Int :=
  let guess : Int := (n.log2 : Int) - (d.log2 : Int) - 52
  let (a, b) := shifted n d guess
  let e := if a < b * leadingBit then guess - 1 else guess
  if e < leastExponent then leastExponent else e

/-- The bits of the nearest double to a nonnegative ratio, an exact half going to the even
significand. A significand rounded up to the next power of two carries into the exponent. -/
def ratioBits (n d : Nat) : Nat :=
  if n = 0 then 0
  else
    let e := ratioExponent n d
    let q := roundDiv .toEven (shifted n d e).1 (shifted n d e).2
    min ((e - leastExponent).toNat * leadingBit + q) infinityBits

/-- The double nearest to `± n / d`, infinite when the ratio is too large. -/
def ofRatio (negative : Bool) (n d : Nat) : Float :=
  withSign negative (Float.ofBits (UInt64.ofNat (ratioBits n d)))

/-- A ratio of zero has the bits of zero. -/
@[simp] theorem ratioBits_zero (d : Nat) : ratioBits 0 d = 0 := rfl

/-- No ratio has the bits of an undefined double. -/
theorem ratioBits_le (n d : Nat) : ratioBits n d ≤ infinityBits := by
  unfold ratioBits
  split
  · exact Nat.zero_le _
  · exact Nat.min_le_right _ _

end TextIntent.Binary64
