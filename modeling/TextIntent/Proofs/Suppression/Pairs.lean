import Mathlib
import TextIntent.Suppression

/-! Which scores and masses the repulsion of a pair depends on. It reads and writes the scores of its two sides
only, so pairs without a common side do not disturb each other, and of the masses it asks for their order
alone. Nothing of this depends on what is computed with. -/
namespace TextIntent

open Scalar

variable {α : Type}

namespace ConfusablePair

/-- The two categories are the sides of the pair, in one order or the other. -/
def Joins (p : ConfusablePair α) (c d : Category) : Prop :=
  (c = p.first ∧ d = p.second) ∨ (c = p.second ∧ d = p.first)

/-- The same pair with its sides in the other order. -/
def swap (p : ConfusablePair α) : ConfusablePair α :=
  { p with first := p.second, second := p.first }

/-- The pairs have no category in common. -/
def Apart (p q : ConfusablePair α) : Prop :=
  (p.first ≠ q.first ∧ p.first ≠ q.second) ∧ p.second ≠ q.first ∧ p.second ≠ q.second

instance (p q : ConfusablePair α) : Decidable (p.Apart q) :=
  inferInstanceAs (Decidable ((_ ∧ _) ∧ _ ∧ _))

/-- The masses of the two sides are in the same order. -/
def SameOrder [Scalar α] (p : ConfusablePair α) (mass mass' : Scores α) : Prop :=
  (mass.get p.first < mass.get p.second ↔ mass'.get p.first < mass'.get p.second) ∧
    (mass.get p.second < mass.get p.first ↔ mass'.get p.second < mass'.get p.first)

end ConfusablePair

namespace SuppressionSettings

variable [Scalar α] (s : SuppressionSettings α) (mass : Scores α) {x y : Scores α}
  {p q : ConfusablePair α} {c : Category}

theorem get_repel_of_ne (x : Scores α) (h₁ : c ≠ p.first) (h₂ : c ≠ p.second) :
    (s.repel mass x p).get c = x.get c := by
  unfold repel
  dsimp only
  split_ifs <;> simp [h₁, h₂]

theorem get_repel_congr (h₁ : x.get p.first = y.get p.first) (h₂ : x.get p.second = y.get p.second)
    (hc : x.get c = y.get c) : (s.repel mass x p).get c = (s.repel mass y p).get c := by
  unfold repel
  dsimp only
  rw [h₁, h₂]
  split_ifs <;> simp [hc]

theorem repel_comm (x : Scores α) (h : p.Apart q) :
    s.repel mass (s.repel mass x p) q = s.repel mass (s.repel mass x q) p := by
  obtain ⟨hfirst, hsecond⟩ := h
  refine PerCategory.ext_get fun c => ?_
  -- a category is a side of one pair at most, and the other pair leaves what that one reads
  by_cases hp : c = p.first ∨ c = p.second
  · have hq : c ≠ q.first ∧ c ≠ q.second := by
      rcases hp with rfl | rfl
      · exact hfirst
      · exact hsecond
    have hkept {d : Category} (hd : d ≠ q.first ∧ d ≠ q.second) :
        x.get d = (s.repel mass x q).get d := (s.get_repel_of_ne mass x hd.1 hd.2).symm
    rw [s.get_repel_of_ne mass _ hq.1 hq.2]
    exact s.get_repel_congr mass (hkept hfirst) (hkept hsecond) (hkept hq)
  · rw [not_or] at hp
    rw [s.get_repel_of_ne mass _ hp.1 hp.2]
    have hkept {d : Category} (h₁ : d ≠ p.first) (h₂ : d ≠ p.second) :
        (s.repel mass x p).get d = x.get d := s.get_repel_of_ne mass x h₁ h₂
    exact s.get_repel_congr mass (hkept hfirst.1.symm hsecond.1.symm)
      (hkept hfirst.2.symm hsecond.2.symm) (hkept hp.1 hp.2)

/-- Two neighbours of a list without a common side may change places. -/
theorem foldl_repel_swap (x : Scores α) (before after : List (ConfusablePair α)) (h : p.Apart q) :
    (before ++ q :: p :: after).foldl (s.repel mass) x =
      (before ++ p :: q :: after).foldl (s.repel mass) x := by
  simp only [List.foldl_append, List.foldl_cons, s.repel_comm mass _ h]

theorem repel_sameOrder {mass mass' : Scores α} (h : p.SameOrder mass mass') (x : Scores α) :
    s.repel mass' x p = s.repel mass x p := by
  unfold repel
  simp only [h.1, h.2]

/-- Of the masses only the order of the two sides of every pair counts. -/
theorem foldl_repel_sameOrder {mass mass' : Scores α} {pairs : List (ConfusablePair α)}
    (h : ∀ p ∈ pairs, p.SameOrder mass mass') (x : Scores α) :
    pairs.foldl (s.repel mass') x = pairs.foldl (s.repel mass) x :=
  List.foldl_ext _ _ x fun y p hp => s.repel_sameOrder (h p hp) y

end SuppressionSettings
end TextIntent
