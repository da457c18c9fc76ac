import TextIntent.Signature

/-! The components of the vector that a text's signature is scaled from. Each is the weight of a slot or
zero, with the share of a character added to it; a property of all components is shown of these. -/
namespace TextIntent

open Scalar

variable {α : Type} [Scalar α]

namespace Signature

variable {f : FeatureSettings α}

/-- The weight of a slot whose words occur. -/
theorem slotWeights_of_occursAny (f : FeatureSettings α) (lower : String) {i : Nat} (hi : i < 10)
    {slot : Slot α} (hs : f.slots[i]? = some slot)
    (ho : Text.occursAny slot.words lower = true) :
    (slotWeights f lower)[i] = 0 + slot.weight := by
  simp [slotWeights, hs, ho]

theorem forall_slotWeights {p : α → Prop} (h₀ : p 0)
    (hw : ∀ slot ∈ f.slots, p (0 + slot.weight)) (lower : String) :
    ∀ x ∈ (slotWeights f lower).toList, p x := by
  intro x hx
  rw [Vector.mem_toList_iff, slotWeights, Vector.mem_ofFn] at hx
  obtain ⟨i, rfl⟩ := hx
  cases hs : f.slots[i.val]? with
  | none => exact h₀
  | some slot =>
    dsimp only
    split
    · exact hw slot (List.mem_of_getElem? hs)
    · exact h₀

theorem forall_addCodes {p q : α → Prop} {v : SlotVector α} (hv : ∀ x ∈ v.toList, p x)
    (hq : ∀ x, p x → q x) (hc : ∀ x (c : Char), p x → q (x + (c.toNat : α) / f.charScale))
    (lower : String) : ∀ x ∈ (addCodes f lower v).toList, q x := by
  intro x hx
  rw [Vector.mem_toList_iff, addCodes, Vector.mem_mapFinIdx] at hx
  obtain ⟨i, hi, rfl⟩ := hx
  have hvi := hv v[i] (Vector.mem_toList_iff.mpr (Vector.getElem_mem hi))
  split
  · exact hc _ _ hvi
  · exact hq _ hvi

/-- What the signature of a text in small letters is scaled from. -/
def unscaled (f : FeatureSettings α) (lower : String) : SlotVector α :=
  if (slotWeights f lower).isZero && !isVisible f lower then slotWeights f lower
  else addCodes f lower (slotWeights f lower)

/-- Scaling comes last, since without a signal there is nothing to scale. -/
theorem ofLower_eq (h : ∀ v : SlotVector α, v.isZero = true → v.normalize = v)
    (f : FeatureSettings α) (lower : String) : ofLower f lower = (unscaled f lower).normalize := by
  unfold ofLower unscaled
  dsimp only
  split
  · next hz => exact (h _ (Bool.and_eq_true_iff.mp hz).1).symm
  · rfl

theorem forall_unscaled {p : α → Prop} (h₀ : p 0) (hw : ∀ slot ∈ f.slots, p (0 + slot.weight))
    (hc : ∀ x (c : Char), p x → p (x + (c.toNat : α) / f.charScale)) (lower : String) :
    ∀ x ∈ (unscaled f lower).toList, p x := by
  unfold unscaled
  split
  · exact forall_slotWeights h₀ hw lower
  · exact forall_addCodes (forall_slotWeights h₀ hw lower) (fun _ hx => hx) hc lower

end Signature
end TextIntent
