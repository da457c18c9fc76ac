import TextIntent.Decimal.Numeral

/-! The shortest decimal that reads back as a given binary number. `m · 2 ^ q` stands for every real
number nearer to it than to its neighbours; `shortest` takes the coarsest decimal grid with a point
among those, and of two such points the nearer one. -/
namespace TextIntent.Decimal

/-- The reals that round to `m · 2 ^ q`, on a scale where that number is `4 * m`. Both ends belong
to them just when `m` is even. -/
structure Basin where
  centre : Nat
  below : Nat
  above : Nat
  closed : Bool
  deriving Repr

/-- Below a power of two the neighbour is only half as far away, except among the smallest
numbers. -/
def Basin.of (m : Nat) (q : Int) : Basin where
  centre := 4 * m
  below := if m = Binary64.leadingBit ∧ Binary64.leastExponent < q then 1 else 2
  above := 2
  closed := m % 2 = 0

/-- The basin holds the number `c · a / b`. -/
def Basin.holds (d : Basin) (a b c : Nat) : Bool :=
  if d.closed then
    decide ((d.centre - d.below) * b ≤ c * a) && decide (c * a ≤ (d.centre + d.above) * b)
  else
    decide ((d.centre - d.below) * b < c * a) && decide (c * a < (d.centre + d.above) * b)

/-- `a / b` is the grid step `10 ^ g` on the scale of the basin around `m · 2 ^ q`. -/
def gridStep (q g : Int) : Nat × Nat :=
  (tenTo g.toNat <<< (2 - q).toNat, tenTo (-g).toNat <<< (q - 2).toNat)

/-- The point of the grid `10 ^ g` in the basin that is nearest to its centre. -/
def gridPoint? (tie : Tie) (d : Basin) (q g : Int) : Option Nat :=
  let (a, b) := gridStep q g
  let near := roundDiv tie (d.centre * b) a
  let low := d.centre * b / a
  if d.holds a b near then some near
  else if d.holds a b low then some low
  else if d.holds a b (low + 1) then some (low + 1)
  else none

/-- The number itself, all its decimals written out. -/
def exactDigits (m : Nat) (q : Int) : Nat × Int :=
  match q with
  | .ofNat k => (m <<< k, 0)
  | .negSucc k => (m * Nat.pow 5 (k + 1), .negSucc k)

/-- The step of a grid this coarse is at least the number, so its points, zero apart, have no
trailing zero to strip. -/
def coarsestGrid (m : Nat) (q : Int) : Int :=
  (((m.log2 : Int) + q + 1) * 30103) / 100000 + 1

/-- The digits and the power of ten of the shortest decimal for `m · 2 ^ q`, for positive `m`.
Seventeen digits always suffice. -/
def shortest (tie : Tie) (m : Nat) (q : Int) : Nat × Int :=
  let d := Basin.of m q
  let top := coarsestGrid m q
  let hit := (List.range 22).findSome? fun (i : Nat) =>
    (gridPoint? tie d q (top - i)).map fun n => (n, top - i)
  hit.getD (exactDigits m q)

end TextIntent.Decimal
