import TextIntent.Numeric.Binary64

/-! Decimal numerals as they are written: digits, how many of them follow the point, and an
exponent of ten if one is written. `toDouble` reads one as the nearest double, by its first 768
digits and whether more follow. -/
namespace TextIntent.Decimal

/-- A power of ten. -/
def tenTo (k : Nat) : Nat := Nat.pow 10 k

/-- `± digits / 10 ^ places · 10 ^ exponent`. -/
structure Numeral where
  negative : Bool
  digits : Nat
  places : Nat
  exponent : Option Int
  deriving DecidableEq, Repr

/-- The digits of `n`, with zeros in front up to the given width. -/
def padded (width n : Nat) : List Char :=
  let ds := Nat.toDigits 10 n
  List.replicate (width - ds.length) '0' ++ ds

namespace Numeral

/-- Written without a point and without an exponent. -/
def isIntegral (n : Numeral) : Bool := n.places == 0 && n.exponent.isNone

/-- An exponent is written after `e` and always carries its sign. -/
def exponentText : Option Int → List Char
  | none => []
  | some (.ofNat k) => 'e' :: '+' :: Nat.toDigits 10 k
  | some (.negSucc k) => 'e' :: '-' :: Nat.toDigits 10 (k + 1)

def chars (n : Numeral) : List Char :=
  (if n.negative then ['-'] else [])
    ++ Nat.toDigits 10 (n.digits / tenTo n.places)
    ++ (if n.places = 0 then [] else '.' :: padded n.places (n.digits % tenTo n.places))
    ++ exponentText n.exponent

def text (n : Numeral) : String := String.ofList n.chars

def ofNat (n : Nat) : Numeral := ⟨false, n, 0, none⟩

/-- The power of ten that the digits, read as an integer, are multiplied by. -/
def scale (n : Numeral) : Int := n.exponent.getD 0 - n.places

/-- Drops zeros from the end of the last `places` digits, and counts the places that are left. -/
def trim (digits : Nat) : Nat → Nat × Nat
  | 0 => (digits, 0)
  | places + 1 => if digits % 10 = 0 then trim (digits / 10) places else (digits, places + 1)

/-- The digits that decide about the nearest double, and the power of ten they are multiplied by.
Past the first 768 digits one further digit `1` stands for all others, zeros at the end of the
fraction apart. No value half way between two doubles needs more digits than that, so the others
only tell that a numeral is past it; zeros of the whole part tell so too. -/
def decisive (n : Numeral) : Nat × Int :=
  if n.digits < tenTo 768 then (n.digits, n.scale)
  else
    let (digits, places) := trim n.digits n.places
    let scale := n.exponent.getD 0 - places
    let surplus := (Nat.toDigits 10 digits).length - 768
    if surplus = 0 then (digits, scale)
    else (digits / tenTo surplus * 10 + 1, scale + surplus - 1)

/-- The double nearest to `± digits · 10 ^ scale`. Values past the range of doubles by their scale
alone are decided without forming the power of ten. -/
def nearestDouble (negative : Bool) (digits : Nat) (scale : Int) : Float :=
  let bits : Int := digits.log2
  if digits = 0 ∨ scale + (bits + 1) / 3 + 1 < -330 then Binary64.withSign negative 0
  else if 310 < scale + bits * 3 / 10 then Binary64.withSign negative Binary64.infinity
  else Binary64.ofRatio negative (digits * tenTo scale.toNat) (tenTo (-scale).toNat)

/-- The double that the numeral is read as. -/
def toDouble (n : Numeral) : Float := nearestDouble n.negative n.decisive.1 n.decisive.2

/-- The double that the numeral is read as, unless that is infinite. -/
def toDouble? (n : Numeral) : Option Float :=
  let x := n.toDouble
  if x.isFinite then some x else none

/-- The natural number that is written, if it has neither sign, point nor exponent. -/
def toNat? (n : Numeral) : Option Nat :=
  if n.isIntegral && !n.negative then some n.digits else none

/-- A numeral of few digits is read exactly. -/
theorem decisive_of_lt {n : Numeral} (h : n.digits < tenTo 768) :
    n.decisive = (n.digits, n.scale) := by
  simp only [decisive, h, if_true]

@[simp] theorem toNat?_ofNat (n : Nat) : (ofNat n).toNat? = some n := rfl

end Numeral
end TextIntent.Decimal
