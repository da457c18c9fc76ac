import TextIntent.Proofs.Real.Config
import TextIntent.Proofs.Suppression.Pairs

/-! Pairs are not ordered, although the program has them in a list and each of them with a first side. Over the
reals the penalty of a pair does not depend on which side comes first. -/
namespace TextIntent.Exact

open Scalar

/-- A pair repels as it does with its sides in the other order. -/
theorem repel_swap (s : SuppressionSettings ℝ) (mass x : Scores ℝ) (p : ConfusablePair ℝ) :
    s.repel mass x p.swap = s.repel mass x p := by
  have hpenalty : p.repulsion * s.dominance * x.get p.second * x.get p.first =
      p.repulsion * s.dominance * x.get p.first * x.get p.second := by ring
  unfold SuppressionSettings.repel
  simp only [ConfusablePair.swap, hpenalty, or_comm]
  split_ifs with _ h₁ h₂
  · rfl
  · exact absurd h₁ h₂.not_gt
  · rfl
  · rfl
  · exact PerCategory.modify_comm _ fun _ _ => rfl

theorem foldl_repel_swapped (s : SuppressionSettings ℝ) (mass x : Scores ℝ)
    {pairs pairs' : List (ConfusablePair ℝ)}
    (h : List.Forall₂ (fun p q => q = p ∨ q = p.swap) pairs pairs') :
    pairs'.foldl (s.repel mass) x = pairs.foldl (s.repel mass) x := by
  induction h generalizing x with
  | nil => rfl
  | @cons p q pairs pairs' hpq _ ih =>
    have hrepel : s.repel mass x q = s.repel mass x p := by
      rcases hpq with rfl | rfl
      · rfl
      · exact repel_swap s mass x p
    rw [List.foldl_cons, List.foldl_cons, hrepel, ih]

/-- Suppression, with all that it reports, is the same when pairs are written with their sides in the other
order, when two neighbours without a common side change places, and with other masses that are in the same
order on the two sides of every pair. -/
theorem suppress_unordered (s : SuppressionSettings ℝ) (mass scores : Scores ℝ) :
    (∀ pairs, List.Forall₂ (fun p q => q = p ∨ q = p.swap) s.pairs pairs →
      { s with pairs }.suppress mass scores = s.suppress mass scores) ∧
    (∀ before p q after, s.pairs = before ++ p :: q :: after → p.Apart q →
      { s with pairs := before ++ q :: p :: after }.suppress mass scores =
        s.suppress mass scores) ∧
    (∀ mass', (∀ p ∈ s.pairs, p.SameOrder mass mass') →
      s.suppress mass' scores = s.suppress mass scores) := by
  refine ⟨fun pairs h => ?_, fun before p q after hpairs h => ?_, fun mass' h => ?_⟩
  · exact congrArg PerCategory.nonnegative (foldl_repel_swapped s mass scores h)
  · refine congrArg PerCategory.nonnegative ?_
    rw [hpairs]
    exact s.foldl_repel_swap mass scores before after h
  · exact congrArg PerCategory.nonnegative (s.foldl_repel_sameOrder h scores)

/-- The default pairs with all sides exchanged, with the third pair after the fourth, and with twice the
masses. -/
theorem default_suppress_unordered :
    let s : SuppressionSettings ℝ := Config.Default.suppression
    let ones : Scores ℝ := .const 1
    let p : ConfusablePair ℝ := ⟨.structural, .physics, 0.5⟩
    let q : ConfusablePair ℝ := ⟨.help, .status, 0.5⟩
    let light : Scores ℝ := PerCategory.zero.set .physics 1
    let heavy : Scores ℝ := light.map (2 * ·)
    { s with pairs := s.pairs.map .swap }.suppress light ones = s.suppress light ones ∧
      (s.pairs = s.pairs.take 2 ++ p :: q :: s.pairs.drop 4 ∧ p.Apart q ∧
        { s with pairs := s.pairs.take 2 ++ q :: p :: s.pairs.drop 4 }.suppress light ones =
          s.suppress light ones) ∧
      (∀ pair ∈ s.pairs, pair.SameOrder light heavy) ∧
      s.suppress heavy ones = s.suppress light ones := by
  intro s ones p q light heavy
  have hswap : List.Forall₂ (fun p q => q = p ∨ q = p.swap) s.pairs (s.pairs.map .swap) :=
    List.forall₂_map_right_iff.mpr (List.forall₂_same.mpr fun _ _ => Or.inr rfl)
  have hpairs : s.pairs = s.pairs.take 2 ++ p :: q :: s.pairs.drop 4 := rfl
  have hapart : p.Apart q := by decide
  have horder : ∀ pair ∈ s.pairs, pair.SameOrder light heavy := by
    intro pair _
    simp only [ConfusablePair.SameOrder, heavy, PerCategory.get_map]
    constructor <;> constructor <;> intro h <;> linarith
  exact ⟨(suppress_unordered s light ones).1 _ hswap,
    ⟨hpairs, hapart, (suppress_unordered s light ones).2.1 _ p q _ hpairs hapart⟩, horder,
    (suppress_unordered s light ones).2.2 heavy horder⟩

end TextIntent.Exact
