import TextIntent.Numeric.Scalar

/-! The curves that turn the drive of a channel into a response. -/
namespace TextIntent

open Scalar

inductive Activation where
  | sigmoid
  | tanh
  | softplus
  | linear
  deriving DecidableEq, Repr

namespace Activation

def all : List Activation := [sigmoid, tanh, softplus, linear]

def name : Activation → String
  | sigmoid => "sigmoid"
  | tanh => "tanh"
  | softplus => "softplus"
  | linear => "linear"

def named : List (String × Activation) := all.map fun a => (a.name, a)

variable {α : Type} [Scalar α]

/-- The value of the curve. The hyperbolic tangent is moved into the unit interval, and the
logarithm of `1 + exp x` is split so that no exponential grows large. -/
def apply (a : Activation) (x : α) : α :=
  match a with
  | sigmoid => 1 / (1 + exp (-x))
  | tanh => 0.5 * (Scalar.tanh x + 1)
  | softplus => larger x 0 + logOnePlus (exp (-Scalar.abs x))
  | linear => x

end Activation
end TextIntent
