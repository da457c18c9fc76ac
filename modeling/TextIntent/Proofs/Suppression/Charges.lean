import TextIntent.Proofs.Config.Accepted
import TextIntent.Proofs.Real.Config
import TextIntent.Proofs.RealValued
import TextIntent.Proofs.Suppression.Pairs

/-! What a category is charged for. The pairs repel each other one after the other, and each goes by the scores
that the one before has left, so a score may be charged several times and fall below zero on the way, in doubles
to minus infinity. Still every charge goes back to the scores at the start: they only fall, so what is above the
threshold later was above it then. -/
namespace TextIntent

open Scalar

variable {α : Type}

variable [Scalar α]

/-- The settings meet every demand on them. -/
def SuppressionSettings.Accepted (s : SuppressionSettings α) : Prop :=
  ∀ check ∈ Config.suppressionChecks s, check = none

theorem Config.Accepted.suppression {config : Config α} (h : config.Accepted) :
    config.suppression.Accepted :=
  fun check hm => Config.accepted_iff.mp h check (by simp [Config.checks, hm])

namespace SuppressionSettings

/-- Some pair joins the category to one that does not have a greater mass, and both are above the threshold. -/
def Charged (s : SuppressionSettings α) (mass scores : Scores α) (c : Category) : Prop :=
  ∃ p ∈ s.pairs, ∃ d, p.Joins c d ∧ s.activationThreshold < scores.get c ∧
    s.activationThreshold < scores.get d ∧ ¬mass.get c < mass.get d

/-- Suppression takes from scores and does not add to them, and takes from no category without a charge. -/
def TakesFromCharged (s : SuppressionSettings α) (mass scores : Scores α) : Prop :=
  ∀ c, 0 ≤ (s.suppress mass scores).value.get c ∧
    (s.suppress mass scores).value.get c ≤ scores.get c ∧
    ((s.suppress mass scores).value.get c < scores.get c → s.Charged mass scores c)

/-- What a pair takes from its two sides together. -/
def penalty (s : SuppressionSettings α) (scores : Scores α) (pair : ConfusablePair α) : α :=
  pair.repulsion * s.dominance * scores.get pair.first * scores.get pair.second

variable [RealValued α] {s : SuppressionSettings α} {mass start scores : Scores α}
  {pair : ConfusablePair α}

namespace Accepted

variable (h : s.Accepted)

include h

theorem dominance : isFinite s.dominance = true ∧ 0 ≤ s.dominance :=
  RealValued.demandNonnegative_eq_none.mp
    (h (demandNonnegative .dominance s.dominance) (by simp [Config.suppressionChecks]))

theorem activationThreshold : isFinite s.activationThreshold = true ∧ 0 ≤ s.activationThreshold :=
  RealValued.demandNonnegative_eq_none.mp
    (h (demandNonnegative .activationThreshold s.activationThreshold)
      (by simp [Config.suppressionChecks]))

theorem of_mem_pairs (hp : pair ∈ s.pairs) :
    pair.first ≠ pair.second ∧ isFinite pair.repulsion = true ∧ 0 ≤ pair.repulsion := by
  have hchecks : ∀ check ∈ ([if pair.first = pair.second then some (.pairedWithItself pair.first)
      else none, demandNonnegative .repulsion pair.repulsion] : List (Option (ConfigFault α))),
      check = none := fun check hm =>
    h check (List.mem_append_right _ (List.mem_flatMap.mpr ⟨pair, hp, hm⟩))
  simp only [List.forall_mem_cons] at hchecks
  obtain ⟨hne, hrepulsion, -⟩ := hchecks
  exact ⟨by simpa using hne, RealValued.demandNonnegative_eq_none.mp hrepulsion⟩

end Accepted

section Repel

/-- What one pair does to a category: nothing, or it takes the penalty or one half of it. -/
theorem get_repel_cases (s : SuppressionSettings α) (mass scores : Scores α)
    (hne : pair.first ≠ pair.second) (c : Category) :
    (s.repel mass scores pair).get c = scores.get c ∨
      ¬(scores.get pair.first ≤ s.activationThreshold ∨
        scores.get pair.second ≤ s.activationThreshold) ∧
      (∃ d, pair.Joins c d ∧ ¬mass.get c < mass.get d) ∧
      ((s.repel mass scores pair).get c = scores.get c - s.penalty scores pair ∨
        (s.repel mass scores pair).get c = scores.get c - 0.5 * s.penalty scores pair) := by
  unfold repel
  dsimp only
  split_ifs with hsmall hfirst hsecond
  case pos => exact Or.inl rfl
  case pos =>
    by_cases hc : c = pair.first
    · subst hc
      exact Or.inr ⟨hsmall, ⟨pair.second, Or.inl ⟨rfl, rfl⟩, RealValued.lt_asymm hfirst⟩,
        Or.inl (by simp [penalty])⟩
    · exact Or.inl (by simp [hc])
  case pos =>
    by_cases hc : c = pair.second
    · subst hc
      exact Or.inr ⟨hsmall, ⟨pair.first, Or.inr ⟨rfl, rfl⟩, hfirst⟩, Or.inl (by simp [penalty])⟩
    · exact Or.inl (by simp [hc])
  case neg =>
    by_cases hc : c = pair.first
    · subst hc
      exact Or.inr ⟨hsmall, ⟨pair.second, Or.inl ⟨rfl, rfl⟩, hsecond⟩,
        Or.inr (by simp [penalty, hne])⟩
    · by_cases hd : c = pair.second
      · subst hd
        exact Or.inr ⟨hsmall, ⟨pair.first, Or.inr ⟨rfl, rfl⟩, hfirst⟩,
          Or.inr (by simp [penalty, hne.symm])⟩
      · exact Or.inl (by simp [hc, hd])

/-- The penalty of two positive finite scores may be infinite, but it is not negative. -/
theorem zero_le_penalty (h : s.Accepted) (hp : pair ∈ s.pairs)
    (hfirst : 0 < scores.get pair.first) (hfirst' : isFinite (scores.get pair.first) = true)
    (hsecond : 0 < scores.get pair.second) (hsecond' : isFinite (scores.get pair.second) = true) :
    0 ≤ s.penalty scores pair := by
  obtain ⟨-, hr', hr⟩ := h.of_mem_pairs hp
  obtain ⟨hd', hd⟩ := h.dominance
  have hrd : 0 ≤ pair.repulsion * s.dominance :=
    RealValued.mul_nonneg hr hd (Or.inl hr') (Or.inl hd')
  have hrda : 0 ≤ pair.repulsion * s.dominance * scores.get pair.first :=
    RealValued.mul_nonneg hrd (RealValued.le_of_lt hfirst) (Or.inr hfirst) (Or.inl hfirst')
  exact RealValued.mul_nonneg hrda (RealValued.le_of_lt hsecond) (Or.inr hsecond) (Or.inl hsecond')

/-- Scores on the way through the pairs: none is above what it was at the start, and what has changed was
charged by the scores of the start. -/
def ReducedFrom (s : SuppressionSettings α) (mass start scores : Scores α) : Prop :=
  ∀ c, scores.get c ≤ start.get c ∧ (scores.get c = start.get c ∨ s.Charged mass start c)

/-- A score that a pair may lower is above the threshold and finite. -/
theorem ReducedFrom.of_not_le (h : s.ReducedFrom mass start scores) (hs : s.Accepted)
    (hf : ∀ c, isFinite (start.get c) = true) {c : Category}
    (hc : ¬scores.get c ≤ s.activationThreshold) :
    s.activationThreshold < scores.get c ∧ 0 < scores.get c ∧ isFinite (scores.get c) = true := by
  obtain ⟨hθ', hθ⟩ := hs.activationThreshold
  have habove : s.activationThreshold < scores.get c :=
    RealValued.lt_of_not_le ((RealValued.le_iff _ _).mp (h c).1).1
      (RealValued.defined_of_isFinite hθ') hc
  have hpos : 0 < scores.get c := RealValued.lt_of_le_of_lt hθ habove
  exact ⟨habove, hpos, RealValued.isFinite_of_le (RealValued.le_of_lt hpos) (h c).1 (hf c)⟩

/-- One more pair. -/
theorem ReducedFrom.repel (h : s.ReducedFrom mass start scores) (hs : s.Accepted)
    (hf : ∀ c, isFinite (start.get c) = true) (hp : pair ∈ s.pairs) :
    s.ReducedFrom mass start (s.repel mass scores pair) := by
  intro c
  rcases get_repel_cases s mass scores (hs.of_mem_pairs hp).1 c with
    heq | ⟨hlarge, ⟨d, hj, hm⟩, htaken⟩
  · rw [heq]
    exact h c
  obtain ⟨hfirst, hsecond⟩ := not_or.mp hlarge
  obtain ⟨hc, hd⟩ : ¬scores.get c ≤ s.activationThreshold ∧
      ¬scores.get d ≤ s.activationThreshold := by
    rcases hj with ⟨rfl, rfl⟩ | ⟨rfl, rfl⟩
    · exact ⟨hfirst, hsecond⟩
    · exact ⟨hsecond, hfirst⟩
  obtain ⟨-, hfirst, hfirst'⟩ := h.of_not_le hs hf hfirst
  obtain ⟨-, hsecond, hsecond'⟩ := h.of_not_le hs hf hsecond
  obtain ⟨hc, -, hfinite⟩ := h.of_not_le hs hf hc
  obtain ⟨hd, -, -⟩ := h.of_not_le hs hf hd
  have hpenalty : 0 ≤ s.penalty scores pair :=
    zero_le_penalty hs hp hfirst hfirst' hsecond hsecond'
  have hhalf : 0 ≤ 0.5 * s.penalty scores pair :=
    RealValued.mul_nonneg (RealValued.le_of_lt RealValued.half_pos) hpenalty
      (Or.inl RealValued.isFinite_half) (Or.inr RealValued.half_pos)
  constructor
  · refine RealValued.le_trans ?_ (h c).1
    rcases htaken with heq | heq
    · rw [heq]
      exact RealValued.sub_le hfinite hpenalty
    · rw [heq]
      exact RealValued.sub_le hfinite hhalf
  · exact Or.inr ⟨pair, hp, d, hj, RealValued.lt_of_lt_of_le hc (h c).1,
      RealValued.lt_of_lt_of_le hd (h d).1, hm⟩

/-- All pairs. -/
theorem reducedFrom_foldl (hs : s.Accepted) (hf : ∀ c, isFinite (scores.get c) = true)
    (mass : Scores α) : s.ReducedFrom mass scores (s.pairs.foldl (s.repel mass) scores) := by
  refine List.foldlRecOn s.pairs (s.repel mass) ?_ fun cur h pair hp => h.repel hs hf hp
  exact fun c => ⟨RealValued.le_refl (RealValued.defined_of_isFinite (hf c)), Or.inl rfl⟩

end Repel

/-- Suppressed scores lie between zero and the scores at the start, and are those unless there was a charge. -/
theorem get_suppress_bounds (hs : s.Accepted) (h₀ : scores.Ordinary) (mass : Scores α) (c : Category) :
    0 ≤ (s.suppress mass scores).value.get c ∧
      (s.suppress mass scores).value.get c ≤ scores.get c ∧
      ((s.suppress mass scores).value.get c = scores.get c ∨ s.Charged mass scores c) := by
  obtain ⟨hle, hcause⟩ := reducedFrom_foldl hs h₀.isFinite mass c
  have hbounds := RealValued.value_confine_le hle (h₀ c).1 (h₀ c).2
  rw [suppress, PerCategory.get_value_nonnegative]
  refine ⟨hbounds.1, hbounds.2, hcause.imp_left fun heq => ?_⟩
  rw [heq, RealValued.value_confine_of_mem (h₀ c).1 (h₀ c).2]

theorem takesFromCharged (hs : s.Accepted) (h₀ : scores.Ordinary) (mass : Scores α) :
    s.TakesFromCharged mass scores := by
  intro c
  obtain ⟨h, hle, hcause⟩ := get_suppress_bounds hs h₀ mass c
  refine ⟨h, hle, fun hlt => hcause.resolve_left fun heq => ?_⟩
  rw [heq] at hlt
  exact RealValued.lt_asymm hlt hlt

open scoped Exact

/-- In doubles, where the penalties are rounded and may be infinite, and over the reals: suppression leaves
every score between zero and what it was, and a score that falls was charged by some pair as the scores stood
at the start. -/
theorem takesFromCharged_rounded_and_exact :
    (∀ (s : SuppressionSettings Float) (mass scores : Scores Float), s.Accepted →
      scores.Ordinary → s.TakesFromCharged mass scores) ∧
    (∀ (s : SuppressionSettings ℝ) (mass scores : Scores ℝ), s.Accepted →
      scores.Ordinary → s.TakesFromCharged mass scores) :=
  ⟨fun _ mass _ hs h₀ => takesFromCharged hs h₀ mass,
    fun _ mass _ hs h₀ => takesFromCharged hs h₀ mass⟩

/-- Every category at one and without mass, under the default settings; `physics` is among those that fall. -/
theorem default_takesFromCharged :
    let ones : Scores Float := .const 1
    let ones' : Scores ℝ := .const 1
    ((Config.default : Config Float).suppression.Accepted ∧ ones.Ordinary ∧
      (Config.default : Config Float).suppression.TakesFromCharged .zero ones ∧
      ((Config.default : Config Float).suppression.suppress .zero ones).value.get .physics < 1) ∧
    (Config.default : Config ℝ).suppression.Accepted ∧ ones'.Ordinary ∧
      (Config.default : Config ℝ).suppression.TakesFromCharged .zero ones' := by
  intro ones ones'
  have hs := Config.default_accepted.suppression
  have hs' := Exact.default_accepted.suppression
  have h₀ : ones.Ordinary := PerCategory.ordinary_iff.mpr fun c => by
    rw [PerCategory.get_const]
    exact ⟨Binary64.zero_le_one, rfl⟩
  have h₀' : ones'.Ordinary := fun c => by
    rw [PerCategory.get_const]
    exact ⟨zero_le_one, le_trans (by norm_num) Exact.thousand_le_maxFinite⟩
  exact ⟨⟨hs, h₀, takesFromCharged_rounded_and_exact.1 _ _ _ hs h₀, by decide +kernel⟩, hs', h₀',
    takesFromCharged_rounded_and_exact.2 _ _ _ hs' h₀'⟩

end SuppressionSettings
end TextIntent
