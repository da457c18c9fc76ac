import TextIntent.Decimal.Numeral
import TextIntent.Decimal.Shortest

/-! The ways a double is written. A `Style` fixes when the shortest digits are written positionally
and how whole numbers and ties look; `fixed` and `significant` round to a given number of digits
instead. -/
namespace TextIntent.Decimal

/-- Decisions about the shortest numeral of a double. -/
structure Style where
  /-- Where a decimal half way between two shortest candidates goes. -/
  tie : Tie
  /-- The exponents of the leading digit that are written without an exponent. -/
  positional : Int → Bool
  /-- Positional whole numbers end in `.0`. -/
  pointZero : Bool

/-- Every number is written positionally and whole numbers have no point. -/
def plain : Style := ⟨.up, fun _ => true, false⟩

/-- Numbers from `0.00001` to below `10 ^ 16` are written positionally, with a point. -/
def pointed : Style := ⟨.toEven, fun p => -5 ≤ p && p ≤ 15, true⟩

/-- The numeral of `digits · 10 ^ scale`. -/
def Style.numeral (style : Style) (negative : Bool) (digits : Nat) (scale : Int) : Numeral :=
  let length := (Nat.toDigits 10 digits).length
  let leading := scale + length - 1
  if style.positional leading then
    match scale with
    | .ofNat k =>
      if style.pointZero then ⟨negative, digits * tenTo (k + 1), 1, none⟩
      else ⟨negative, digits * tenTo k, 0, none⟩
    | .negSucc k => ⟨negative, digits, k + 1, none⟩
  else ⟨negative, digits, length - 1, some leading⟩

/-- The numeral of a finite double; there is none for the others. -/
def Style.numeral? (style : Style) (x : Float) : Option Numeral :=
  match Binary64.parts x with
  | .finite negative m q =>
    if m = 0 then some ⟨negative, 0, if style.pointZero then 1 else 0, none⟩
    else
      let (digits, scale) := shortest style.tie m q
      some (style.numeral negative digits scale)
  | _ => none

/-- The text of a double, given the text of a finite one. -/
def describe (finite : Bool → Nat → Int → String) (x : Float) : String :=
  match Binary64.parts x with
  | .undefined => "NaN"
  | .infinite negative => if negative then "-inf" else "inf"
  | .finite negative m q => finite negative m q

/-- The shortest digits that read back, never with an exponent. -/
def shortestText (x : Float) : String :=
  describe (fun _ _ _ => ((plain.numeral? x).map Numeral.text).getD "") x

/-- `m · 2 ^ q` in units of `10 ^ g`, to the nearest integer, an exact half to the even one. -/
def roundToGrid (m : Nat) (q g : Int) : Nat :=
  roundDiv .toEven (m <<< q.toNat * tenTo (-g).toNat) (tenTo g.toNat <<< (-q).toNat)

/-- A fixed number of places, an exact half going to the even digit. -/
def fixed (places : Nat) (x : Float) : String :=
  describe (fun negative m q =>
    Numeral.text ⟨negative, roundToGrid m q (-places), places, none⟩) x

/-- The exponent of the leading decimal digit of `m · 2 ^ q`, for positive `m`. -/
def leadingExponent (m : Nat) (q : Int) : Int :=
  let reaches (p : Int) : Bool :=
    tenTo p.toNat <<< (-q).toNat ≤ m <<< q.toNat * tenTo (-p).toNat
  let top := coarsestGrid m q
  if reaches top then top else if reaches (top - 1) then top - 1 else top - 2

/-- A leading digit, the given number of further digits, and the exponent of ten. Zero is `0`. -/
def significant (further : Nat) (x : Float) : String :=
  describe (fun negative m q =>
    if m = 0 then "0"
    else
      let leading := leadingExponent m q
      let n := roundToGrid m q (leading - further)
      -- rounding nines up adds a digit
      let (digits, exponent) :=
        if n < tenTo (further + 1) then (n, leading) else (n / 10, leading + 1)
      Numeral.text ⟨negative, digits, further, none⟩ ++ "e" ++ toString exponent) x

end TextIntent.Decimal
