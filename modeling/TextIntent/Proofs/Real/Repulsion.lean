import TextIntent.Proofs.Real.Scores
import TextIntent.Proofs.Suppression.Pairs
import TextIntent.Config.Default

/-! Telling categories apart, over the reals. Telltale words add up, and however the masses share out a
penalty, each side of a pair keeps a part of its score that depends on what the other side has kept. -/
namespace TextIntent.Exact

open Scalar Config

/-- The number of telltale words for a category that occur in the text. -/
def telltaleHits (s : SuppressionSettings ℝ) (lower : String) (c : Category) : ℕ :=
  (s.discriminative.map fun table =>
    if table.category = c then table.words.countP (Text.occurs · lower) else 0).sum

/-- Every telltale word adds the increment to the score of its category. -/
theorem get_boost (s : SuppressionSettings ℝ) (lower : String) (scores : Scores ℝ) (c : Category) :
    (s.boost lower scores).get c = scores.get c + telltaleHits s lower c * s.boostIncrement := by
  unfold SuppressionSettings.boost telltaleHits
  induction s.discriminative generalizing scores with
  | nil => simp
  | cons table tables ih =>
    rw [List.foldl_cons, ih, PerCategory.get_modify, List.map_cons, List.sum_cons]
    by_cases hc : table.category = c
    · rw [if_pos hc.symm, if_pos hc]
      push_cast
      ring
    · rw [if_neg (Ne.symm hc), if_neg hc, zero_add]

/-- Two scores after a repulsion of some strength, against the scores before. -/
structure Repelled (strength a b a' b' : ℝ) : Prop where
  first_nonneg : 0 ≤ a'
  first_le : a' ≤ a
  second_nonneg : 0 ≤ b'
  second_le : b' ≤ b
  le_first : a * (1 - strength * b') ≤ a'
  le_second : b * (1 - strength * a') ≤ b'

namespace Repelled

variable {k a b a' b' A B x : ℝ}

/-- Nothing happens between sides of which one is below the threshold. -/
theorem refl (hk : 0 ≤ k) (ha : 0 ≤ a) (hb : 0 ≤ b) : Repelled k a b a b :=
  ⟨ha, le_rfl, hb, le_rfl, mul_le_of_le_one_right ha (by nlinarith [mul_nonneg hk hb]),
    mul_le_of_le_one_right hb (by nlinarith [mul_nonneg hk ha])⟩

protected theorem symm (h : Repelled k a b a' b') : Repelled k b a b' a' :=
  ⟨h.second_nonneg, h.second_le, h.first_nonneg, h.first_le, h.le_second, h.le_first⟩

/-- One side pays the penalty. -/
theorem of_first_pays (hk : 0 ≤ k) (ha : 0 ≤ a) (hb : 0 ≤ b) (hkb : k * b ≤ 1) :
    Repelled k a b (a - k * a * b) b := by
  have hpay : 0 ≤ k * a * b := mul_nonneg (mul_nonneg hk ha) hb
  have hkeep : a - k * a * b = a * (1 - k * b) := by ring
  have hkept : 0 ≤ a * (1 - k * b) := mul_nonneg ha (sub_nonneg.mpr hkb)
  refine ⟨hkeep ▸ hkept, by linarith, hb, le_rfl, hkeep.ge, ?_⟩
  refine mul_le_of_le_one_right hb ?_
  rw [hkeep]
  linarith [mul_nonneg hk hkept]

/-- Both sides pay one half. -/
theorem of_both_pay (hk : 0 ≤ k) (ha : 0 ≤ a) (hb : 0 ≤ b) (hka : k * a ≤ 1) (hkb : k * b ≤ 1) :
    Repelled k a b (a - 0.5 * (k * a * b)) (b - 0.5 * (k * a * b)) := by
  have hpay : 0 ≤ k * a * b := mul_nonneg (mul_nonneg hk ha) hb
  have hfirst : 0 ≤ a * (1 - k * b) := mul_nonneg ha (sub_nonneg.mpr hkb)
  have hsecond : 0 ≤ b * (1 - k * a) := mul_nonneg hb (sub_nonneg.mpr hka)
  have hcross₁ := mul_nonneg hpay (sub_nonneg.mpr hka)
  have hcross₂ := mul_nonneg hpay (sub_nonneg.mpr hkb)
  exact ⟨by linarith, by linarith, by linarith, by linarith, by linarith, by linarith⟩

/-- What one side had before, from bounds of both sides afterwards. -/
theorem first_le_of (h : Repelled k a b a' b') (hk : 0 ≤ k) (ha' : a' ≤ A) (hb' : b' ≤ B)
    (hB : k * B < 1) (hx : A ≤ x * (1 - k * B)) : a ≤ x := by
  have ha : 0 ≤ a := h.first_nonneg.trans h.first_le
  have hkept : a * (1 - k * B) ≤ x * (1 - k * B) := by
    calc a * (1 - k * B) ≤ a * (1 - k * b') := by gcongr
      _ ≤ a' := h.le_first
      _ ≤ x * (1 - k * B) := ha'.trans hx
  exact le_of_mul_le_mul_right hkept (by linarith)

/-- What one side has kept, from a bound of the other side. -/
theorem le_first_of (h : Repelled k a b a' b') (hk : 0 ≤ k) (hx : 0 ≤ x) (ha : x ≤ a)
    (hb' : b' ≤ B) (hB : k * B ≤ 1) : x * (1 - k * B) ≤ a' := by
  calc x * (1 - k * B) ≤ a * (1 - k * b') := by
        refine mul_le_mul ha ?_ (by linarith) (hx.trans ha)
        gcongr
    _ ≤ a' := h.le_first

end Repelled

section Repel

variable {s : SuppressionSettings ℝ} {pair : ConfusablePair ℝ} {scores : Scores ℝ}

/-- The repulsion of a pair, whatever the masses. -/
theorem repelled_repel (mass : Scores ℝ) (hne : pair.first ≠ pair.second)
    (hk : 0 ≤ pair.repulsion * s.dominance)
    (hnonneg : ∀ c, 0 ≤ scores.get c)
    (hle : ∀ c, pair.repulsion * s.dominance * scores.get c ≤ 1) :
    Repelled (pair.repulsion * s.dominance) (scores.get pair.first) (scores.get pair.second)
      ((s.repel mass scores pair).get pair.first)
      ((s.repel mass scores pair).get pair.second) := by
  have ha := hnonneg pair.first
  have hb := hnonneg pair.second
  unfold SuppressionSettings.repel
  dsimp only
  split_ifs
  case pos => exact .refl hk ha hb
  case pos =>
    simp only [PerCategory.get_modify, if_pos, if_neg hne.symm]
    exact .of_first_pays hk ha hb (hle _)
  case pos =>
    have h := (Repelled.of_first_pays hk hb ha (hle pair.first)).symm
    have hcomm : pair.repulsion * s.dominance * scores.get pair.second * scores.get pair.first =
        pair.repulsion * s.dominance * scores.get pair.first * scores.get pair.second := by ring
    rw [hcomm] at h
    simpa only [PerCategory.get_modify, if_pos, if_neg hne] using h
  case neg =>
    simp only [PerCategory.get_modify, if_pos, if_neg hne, if_neg hne.symm]
    exact .of_both_pay hk ha hb (hle _) (hle _)

/-- No score grows, and none becomes negative. -/
theorem repel_bounds (mass : Scores ℝ) (hne : pair.first ≠ pair.second)
    (hk : 0 ≤ pair.repulsion * s.dominance) (hnonneg : ∀ c, 0 ≤ scores.get c)
    (hle : ∀ c, pair.repulsion * s.dominance * scores.get c ≤ 1) (c : Category) :
    0 ≤ (s.repel mass scores pair).get c ∧ (s.repel mass scores pair).get c ≤ scores.get c := by
  have h := repelled_repel mass hne hk hnonneg hle
  by_cases h₁ : c = pair.first
  · exact h₁ ▸ ⟨h.first_nonneg, h.first_le⟩
  · by_cases h₂ : c = pair.second
    · exact h₂ ▸ ⟨h.second_nonneg, h.second_le⟩
    · rw [s.get_repel_of_ne mass scores h₁ h₂]
      exact ⟨hnonneg c, le_rfl⟩

/-- Nothing is told apart among small scores. -/
theorem value_suppress_of_le (mass : Scores ℝ) (h₀ : ∀ c, 0 ≤ scores.get c)
    (h₁ : ∀ c, scores.get c ≤ s.activationThreshold) (hmax : s.activationThreshold ≤ 1000) :
    (s.suppress mass scores).value = scores := by
  have hrepel (pair : ConfusablePair ℝ) : s.repel mass scores pair = scores :=
    if_pos (Or.inl (h₁ pair.first))
  rw [SuppressionSettings.suppress, List.foldl_fixed' hrepel]
  exact nonnegative_eq_self h₀ fun c => (h₁ c).trans hmax

end Repel

section Default

/-- The scores after the five repulsions of the default configuration, which all have the same strength.
What `physics`, `operator` and `structural` have between two of their repulsions, and `help` between its
two, is some number. -/
structure DefaultRepelled (b q : Scores ℝ) : Prop where
  greeting : q.get .greeting = b.get .greeting
  unknown : q.get .unknown = b.get .unknown
  sciences : ∃ p o t, Repelled (3 / 8) (b.get .physics) (b.get .operator) p o ∧
    Repelled (3 / 8) (b.get .structural) o t (q.get .operator) ∧
    Repelled (3 / 8) t p (q.get .structural) (q.get .physics)
  requests : ∃ h, Repelled (3 / 8) (b.get .help) (b.get .status) h (q.get .status) ∧
    Repelled (3 / 8) h (b.get .navigation) (q.get .help) (q.get .navigation)

/-- One repulsion of the default configuration, with the bounds that the next one asks for. -/
theorem repel_default (mass : Scores ℝ) {scores : Scores ℝ}
    (h : ∀ c, 0 ≤ scores.get c ∧ scores.get c ≤ 8 / 3) (pair : ConfusablePair ℝ)
    (hp : pair ∈ (Default.suppression : SuppressionSettings ℝ).pairs) :
    (∀ c, 0 ≤ (Default.suppression.repel mass scores pair).get c ∧
        (Default.suppression.repel mass scores pair).get c ≤ 8 / 3) ∧
      (∀ c, c ≠ pair.first → c ≠ pair.second →
        (Default.suppression.repel mass scores pair).get c = scores.get c) ∧
      Repelled (3 / 8) (scores.get pair.first) (scores.get pair.second)
        ((Default.suppression.repel mass scores pair).get pair.first)
        ((Default.suppression.repel mass scores pair).get pair.second) := by
  have hpairs : ∀ pair ∈ (Default.suppression : SuppressionSettings ℝ).pairs,
      pair.repulsion * (Default.suppression : SuppressionSettings ℝ).dominance = 3 / 8 ∧
        pair.first ≠ pair.second := by
    simp only [Default.suppression, List.forall_mem_cons, List.not_mem_nil, ne_eq, reduceCtorEq,
      not_false_eq_true, and_true]
    norm_num
  obtain ⟨hstrength, hne⟩ := hpairs pair hp
  have hk : 0 ≤ pair.repulsion * (Default.suppression : SuppressionSettings ℝ).dominance := by
    rw [hstrength]
    norm_num
  have hle (c : Category) :
      pair.repulsion * (Default.suppression : SuppressionSettings ℝ).dominance * scores.get c ≤ 1 := by
    rw [hstrength]
    linarith [(h c).2]
  have hbounds := repel_bounds mass hne hk (fun c => (h c).1) hle
  have hrepelled := repelled_repel mass hne hk (fun c => (h c).1) hle
  rw [hstrength] at hrepelled
  exact ⟨fun c => ⟨(hbounds c).1, (hbounds c).2.trans (h c).2⟩,
    fun c => Default.suppression.get_repel_of_ne mass scores, hrepelled⟩

theorem defaultRepelled_suppress (mass : Scores ℝ) {b : Scores ℝ}
    (hb : ∀ c, 0 ≤ b.get c ∧ b.get c ≤ 8 / 3) :
    DefaultRepelled b ((Default.suppression : SuppressionSettings ℝ).suppress mass b).value := by
  -- the pairs in order; what a pair does not name stays as it is
  obtain ⟨h₁, e₁, r₁⟩ := repel_default mass hb ⟨.physics, .operator, 0.5⟩
    (by simp [Default.suppression])
  set s₁ := Default.suppression.repel mass b ⟨.physics, .operator, 0.5⟩
  obtain ⟨h₂, e₂, r₂⟩ := repel_default mass h₁ ⟨.structural, .operator, 0.5⟩
    (by simp [Default.suppression])
  set s₂ := Default.suppression.repel mass s₁ ⟨.structural, .operator, 0.5⟩
  obtain ⟨h₃, e₃, r₃⟩ := repel_default mass h₂ ⟨.structural, .physics, 0.5⟩
    (by simp [Default.suppression])
  set s₃ := Default.suppression.repel mass s₂ ⟨.structural, .physics, 0.5⟩
  obtain ⟨h₄, e₄, r₄⟩ := repel_default mass h₃ ⟨.help, .status, 0.5⟩
    (by simp [Default.suppression])
  set s₄ := Default.suppression.repel mass s₃ ⟨.help, .status, 0.5⟩
  obtain ⟨h₅, e₅, r₅⟩ := repel_default mass h₄ ⟨.help, .navigation, 0.5⟩
    (by simp [Default.suppression])
  set s₅ := Default.suppression.repel mass s₄ ⟨.help, .navigation, 0.5⟩
  have hq : ((Default.suppression : SuppressionSettings ℝ).suppress mass b).value = s₅ :=
    nonnegative_eq_self (fun c => (h₅ c).1) fun c => (h₅ c).2.trans (by norm_num)
  constructor
  case greeting => simp [hq, e₁, e₂, e₃, e₄, e₅]
  case unknown => simp [hq, e₁, e₂, e₃, e₄, e₅]
  case sciences =>
    refine ⟨s₁.get .physics, s₁.get .operator, s₂.get .structural, r₁, ?_, ?_⟩
    · simpa [hq, e₁, e₃, e₄, e₅] using r₂
    · simpa [hq, e₂, e₄, e₅] using r₃
  case requests =>
    refine ⟨s₄.get .help, ?_, ?_⟩
    · simpa [hq, e₁, e₂, e₃, e₅] using r₄
    · simpa [hq, e₁, e₂, e₃, e₄] using r₅

end Default

end TextIntent.Exact
