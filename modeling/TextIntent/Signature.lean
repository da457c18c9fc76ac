import TextIntent.Checked
import TextIntent.Config.Basic

/-! Signatures: ten nonnegative numbers that stand for a text. Each slot counts the weight of its
words, the first ten characters add their codes, and the result is scaled to unit length. A caller
may also give the ten numbers directly. -/
namespace TextIntent

open Scalar

variable {α : Type} [Scalar α]

namespace SlotVector

/-- Scales to unit length; a vector shorter than `epsilon` is kept. Components are divided by the
largest one before they are squared, so that no square overflows. -/
def normalize (v : SlotVector α) : SlotVector α :=
  let scale := peak (v.toList.map Scalar.abs)
  if Scalar.isZero scale then v
  else
    let unitNorm := sqrt (sum (v.toList.map fun x => x / scale * (x / scale)))
    if scale * unitNorm < epsilon then v
    else v.map fun x => x / scale / unitNorm

end SlotVector

namespace Signature

/-- What is wrong with a component of a given signature. -/
def componentFault? (position : Nat) (x : α) : Option (NumericalFault α) :=
  if !isFinite x then some (.signatureNotFinite position x)
  else if x < 0 then some (.signatureNegative position x)
  else none

/-- The signature that a caller gives. Its length is checked before its components. -/
def ofList (xs : List α) : Checked α (SlotVector α) := do
  demandLength 10 xs.length
  match (xs.mapIdx componentFault?).findSome? id, SlotVector.ofList? xs with
  | some fault, _ => throw (.numerical fault)
  | none, some v => return v.normalize
  | none, none => throw (.length 10 xs.length)

/-- The weights of the slots with a word in the text; slots beyond the tenth do not count. -/
def slotWeights (f : FeatureSettings α) (lower : String) : SlotVector α :=
  Vector.ofFn fun i =>
    match f.slots[i.val]? with
    | some slot => if Text.occursAny slot.words lower then 0 + slot.weight else 0
    | none => 0

/-- The text has as many visible characters as a signal without slot words needs, and at least
one. -/
def isVisible (f : FeatureSettings α) (lower : String) : Bool :=
  max 1 f.minSignalChars.toNat ≤ lower.toList.countP fun c => !Text.isBlank c

/-- Adds the codes of the first ten characters, one to each slot. -/
def addCodes (f : FeatureSettings α) (lower : String) (v : SlotVector α) : SlotVector α :=
  let first := lower.toList.take 10
  v.mapFinIdx fun i x _ =>
    match first[i]? with
    | some c => x + (c.toNat : α) / f.charScale
    | none => x

/-- The signature of a text in small letters. Without slot words and with too few visible
characters there is no signal, and the signature is zero. -/
def ofLower (f : FeatureSettings α) (lower : String) : SlotVector α :=
  let weights := slotWeights f lower
  if weights.isZero && !isVisible f lower then weights
  else (addCodes f lower weights).normalize

/-- The signature of a text. -/
def ofText (f : FeatureSettings α) (text : String) : SlotVector α := ofLower f (Text.lower text)

end Signature
end TextIntent
