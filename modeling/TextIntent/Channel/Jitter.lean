import TextIntent.SlotVector

/-! Seeded noise: a shift register of 64 bits, three shifts and exclusive-ors a step. It sets the
filters apart from their affinities, always in the same way for the same seed. -/
namespace TextIntent.Jitter

/-- The register after seeding; zero would stay zero and is replaced. -/
def seeded (seed : UInt64) : UInt64 := if seed = 0 then 0xdeadbeefcafebabe else seed

def step (x : UInt64) : UInt64 :=
  let x := x ^^^ (x <<< 13)
  let x := x ^^^ (x >>> 7)
  x ^^^ (x <<< 17)

/-- The register after seeding and a number of steps. -/
def state (seed : UInt64) : Nat → UInt64
  | 0 => seeded seed
  | n + 1 => step (state seed n)

variable {α : Type} [Scalar α]

/-- The upper 53 bits as a fraction, from zero to below one. -/
def fraction (x : UInt64) : α := ((x >>> 11).toNat : α) / ((1 <<< 53 : Nat) : α)

/-- Adds noise of at most the given size to a vector, slot after slot. -/
def perturb (seed : UInt64) (size : α) (v : SlotVector α) : SlotVector α :=
  v.mapFinIdx fun i x _ => x + (2.0 * fraction (state seed (i + 1)) - 1) * size

end TextIntent.Jitter
