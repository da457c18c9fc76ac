import TextIntent.Proofs.Decision.Finite

/-! How close the final scores come to a distribution. They are never negative and sum to one but for
the shortfall of their total, which is the larger the less signal has been left to divide: below a total
of about a thousandth it can be seen in the sixth digit. -/
namespace TextIntent

open Scalar Binary64

namespace PerCategory

variable {s : Scores Float}

/-- The scores sum to one but for a millionth. -/
def SumsToOne (s : Scores Float) : Prop := |s.exactTotal - 1| ≤ 1e-6

theorem exactTotal_of_not_hasTotal (h : ¬s.HasTotal) : s.normalized.exactTotal = 1 := by
  rw [normalized_of_not_hasTotal h]
  simp [exactTotal, toList, Category.all, set, modify, ofFn, get, zero, const]

/-- Scores with this total miss a millionth. -/
noncomputable def enough : ℝ := 1e-3 - 1e-9

theorem shortfall_le {t : ℝ} (h : enough + 1e-10 ≤ t) : shortfall t ≤ 1e-6 - 2 ^ (-45 : ℤ) := by
  have hε := epsilon_pos
  unfold enough at h
  norm_num at h
  rw [shortfall, div_le_iff₀ (by linarith), value_epsilon, zpow_neg]
  norm_num
  linarith

theorem lt_shortfall {t : ℝ} (h₀ : 0 < t) (h : t ≤ enough - 1e-10) :
    1e-6 + 2 ^ (-45 : ℤ) < shortfall t := by
  have hε := epsilon_pos
  unfold enough at h
  norm_num at h
  rw [shortfall, lt_div_iff₀ (by linarith), value_epsilon, zpow_neg]
  norm_num
  linarith

/-- A total of six times `epsilon` or less misses one eighth. -/
theorem exactTotal_normalized_le (h : ∀ c, 0 ≤ s.get c) (hs : s.HasTotal)
    (ht : value s.total ≤ 6 * value epsilon) : s.normalized.exactTotal ≤ 7 / 8 := by
  have hsum := (abs_le.mp (abs_exactTotal_normalized_sub_le h hs)).2
  have hε := epsilon_pos
  have hlt : 1 / 7 ≤ shortfall (value s.total) := by
    rw [shortfall, div_le_div_iff₀ (by norm_num) (by linarith [hs.2])]
    linarith
  have hsmall : (2 : ℝ) ^ (-45 : ℤ) ≤ 1 / 7 - 1 / 8 := by
    rw [zpow_neg]
    norm_num
  generalize (2 : ℝ) ^ (-45 : ℤ) = d at *
  linarith

/-- Away from the boundary, normalized scores sum to one if there was nothing to divide by, or
enough. -/
theorem sumsToOne_normalized_iff (h : ∀ c, 0 ≤ s.get c)
    (ht : 1e-10 ≤ |value s.total - enough|) :
    s.normalized.SumsToOne ↔ ¬s.HasTotal ∨ enough ≤ value s.total := by
  by_cases hs : s.HasTotal
  · have hsum := abs_exactTotal_normalized_sub_le h hs
    have hpos := epsilon_pos.trans hs.2
    have h₀ : 0 ≤ shortfall (value s.total) := by
      have := epsilon_pos
      unfold shortfall
      positivity
    simp only [hs, not_true, false_or, SumsToOne]
    rw [abs_le] at hsum
    constructor
    · intro hone
      by_contra hn
      rw [abs_of_neg (by linarith)] at ht
      have hlt := lt_shortfall hpos (by linarith)
      have hge := (abs_le.mp hone).1
      generalize (2 : ℝ) ^ (-45 : ℤ) = d at *
      linarith
    · intro hle
      rw [abs_of_nonneg (by linarith)] at ht
      have hsmall := shortfall_le (t := value s.total) (by linarith)
      have hd : (2 : ℝ) ^ (-45 : ℤ) ≤ 1e-6 := by
        rw [zpow_neg]
        norm_num
      generalize (2 : ℝ) ^ (-45 : ℤ) = d at *
      rw [abs_le]
      constructor <;> linarith
  · simp only [hs, not_false_eq_true, true_or, iff_true, SumsToOne]
    rw [exactTotal_of_not_hasTotal hs]
    norm_num

/-- A total of one and more is enough. -/
theorem sumsToOne_normalized_of_one_le (h : ∀ c, 0 ≤ s.get c) (ht : 1 ≤ value s.total) :
    s.normalized.SumsToOne := by
  have hlt : enough + 1e-10 ≤ value s.total := by
    refine le_trans ?_ ht
    norm_num [enough]
  have habs : 1e-10 ≤ |value s.total - enough| := by
    rw [le_abs]
    left
    linarith
  refine (sumsToOne_normalized_iff h habs).mpr (Or.inr ?_)
  refine le_trans ?_ hlt
  norm_num

end PerCategory

namespace Config

variable {config : Config Float}

/-- Without a signal there is enough to divide by. -/
theorem one_le_total_evenScores (h : config.Accepted) : 1 ≤ value config.evenScores.total := by
  have hle := PerCategory.get_le_total (zero_le_evenScores h) .greeting
  rw [get_evenScores, if_neg (by decide), le_iff, value_one] at hle
  exact hle.2.2

/-- The final scores of every decision. They are not negative; what they miss to one is `epsilon` over
the denominator of the last division, up to rounding. Without a signal this is too little to be seen, and
otherwise it depends on what suppression and bridging have left. -/
theorem decided_finalScores (h : config.Accepted) {cls : Classifier Float}
    (hr : Classifier.Reachable config cls) {op : Operation Float} {d : Decision Float}
    (hd : (cls.perform op).value.1 = .decided d) :
    ∃ lower signature, op.question? config = some (lower, signature) ∧
      let unscaled := config.unscaledScores cls.mass lower signature d.fused
      let total := value unscaled.total
      (∀ c, 0 ≤ d.finalScores.get c) ∧
      (¬unscaled.HasTotal → d.finalScores.exactTotal = 1) ∧
      (unscaled.HasTotal → |d.finalScores.exactTotal -
        (1 - value epsilon / (total + value epsilon))| ≤ 2 ^ (-45 : ℤ)) ∧
      (config.lacksSignal lower signature = true → d.finalScores.SumsToOne) ∧
      (1e-10 ≤ |total - PerCategory.enough| →
        (d.finalScores.SumsToOne ↔ ¬unscaled.HasTotal ∨ PerCategory.enough ≤ total)) := by
  obtain ⟨lower, signature, hq, rfl⟩ := (hr.decided_iff op d).mp hd
  refine ⟨lower, signature, hq, ?_⟩
  intro unscaled total
  have hu (c : Category) : 0 ≤ unscaled.get c := zero_le_unscaledScores h cls.mass lower signature _ c
  have hfinal := decision_finalScores config cls.matrix cls.gates cls.mass lower signature
  rw [hfinal]
  refine ⟨fun c => (PerCategory.normalized_mem_unit (fun e _ => hu e) c).1,
    PerCategory.exactTotal_of_not_hasTotal, PerCategory.abs_exactTotal_normalized_sub_le hu,
    fun hl => ?_, PerCategory.sumsToOne_normalized_iff hu⟩
  refine PerCategory.sumsToOne_normalized_of_one_le hu ?_
  rw [unscaledScores_of_lacksSignal _ _ hl]
  exact one_le_total_evenScores h

/-- Channels without trust contribute nothing. -/
theorem fuse_of_zero_trust {evidence : PerChannel (Scores Float)} {activations trust : PerChannel Float}
    (ht : ∀ channel, trust.get channel = 0)
    (he : ∀ channel c, InUnit ((evidence.get channel).get c))
    (ha : ∀ channel, InUnit (activations.get channel)) :
    fuse evidence activations trust = PerCategory.zero := by
  refine PerCategory.ext_get fun c => ?_
  have hterm (channel : Channel) :
      0 + trust.get channel * activations.get channel * (evidence.get channel).get c = 0 := by
    obtain ⟨s, hs⟩ := unpack_zero_mul (x := 0) (s := .positive) rfl (ha channel).isFinite
    obtain ⟨t, hp⟩ := unpack_zero_mul hs (he channel c).isFinite
    rw [ht]
    exact zero_add_of_unpack_zero hp
  rw [fuse, PerCategory.get_ofFn, PerCategory.get_zero]
  refine List.foldlRecOn (motive := fun x => x = 0) _ _ rfl fun x hx y hy => ?_
  obtain ⟨channel, -, rfl⟩ := List.mem_map.mp hy
  rw [hx]
  exact hterm channel

/-- If no channel is trusted, nothing is fused. -/
theorem decision_fused_of_zero_trust (h : config.Accepted)
    (ht : ∀ channel, config.trust.get channel = 0) {op : Operation Float} {lower : String}
    {signature : SlotVector Float} (hq : op.question? config = some (lower, signature))
    (matrix : SlotMatrix Float) (gates : Gates Float) (mass : Scores Float) :
    (config.decision matrix gates mass lower signature).value.fused = PerCategory.zero := by
  rw [decision_fused, decision_evidence, decision_activations]
  exact fuse_of_zero_trust ht
    (fun channel c => gather_mem_unit h _ (question_mem_unit h hq) _ channel c)
    (Gates.respond_mem_unit _ _ _)

/-- Default settings, but no channel is trusted: telltale words alone count. -/
def untrusted : Config Float :=
  { Config.default with
    channels := (Config.default : Config Float).channels.map fun s => { s with trust := 0 } }

theorem trust_untrusted (channel : Channel) : untrusted.trust.get channel = 0 := by
  cases channel <;> rfl

/-- A text with four telltale words, after feedback. -/
theorem untrusted_sumsToOne :
    let cls := (Classifier.ofConfig untrusted).after [.feedback .operator .physics]
    let text := "Good morning, gravity, momentum and velocity"
    let signature := Signature.ofLower untrusted.features (Text.lower text)
    untrusted.Accepted ∧ Classifier.Reachable untrusted cls ∧
      untrusted.lacksSignal (Text.lower text) signature = false ∧
      ∃ d, (cls.perform (.classify text)).value.1 = .decided d ∧
        (∀ c, 0 ≤ d.finalScores.get c) ∧ d.finalScores.SumsToOne := by
  intro cls text signature
  have ha : untrusted.Accepted := by
    unfold Accepted
    decide +kernel
  have hr : Classifier.Reachable untrusted cls := ⟨_, rfl⟩
  have hq : (Operation.classify text).question? untrusted = some (Text.lower text, signature) := rfl
  have hsignal : untrusted.lacksSignal (Text.lower text) signature = false := by decide +kernel
  have hdecided := (hr.decided_iff _ _).mpr ⟨_, _, hq, rfl⟩
  obtain ⟨_, _, hq', hnonneg, -, -, -, hsum⟩ := decided_finalScores ha hr hdecided
  cases hq'
  rw [decision_fused_of_zero_trust ha trust_untrusted hq] at hsum
  have htotal : 1 ≤ (untrusted.unscaledScores cls.mass (Text.lower text) signature
      PerCategory.zero).total := by
    decide +kernel
  rw [le_iff, value_one] at htotal
  have henough : PerCategory.enough + 1e-10 ≤ 1 := by norm_num [PerCategory.enough]
  refine ⟨ha, hr, hsignal, _, hdecided, hnonneg, (hsum ?_).mpr (Or.inr ?_)⟩
  · exact le_trans (by linarith) (le_abs_self _)
  · linarith

/-- Default settings, but no channel is trusted and telltale words count next to nothing. -/
def faintBoost : Config Float :=
  { Config.default with
    channels := (Config.default : Config Float).channels.map fun s => { s with trust := 0 }
    suppression := { Config.default.suppression with boostIncrement := 5e-9 } }

/-- What it divides for a text with one telltale word, once nothing has been fused. -/
def faintTotal : Float :=
  (faintBoost.unscaledScores PerCategory.zero (Text.lower "momentum")
    (Signature.ofLower faintBoost.features (Text.lower "momentum")) PerCategory.zero).total

theorem faintTotal_bounds :
    faintTotal.isFinite = true ∧ value epsilon < value faintTotal ∧
      value faintTotal ≤ 6 * value epsilon := by
  have h : faintTotal.isFinite = true ∧ epsilon < faintTotal ∧ faintTotal ≤ 5e-9 := by
    decide +kernel
  have hv : value 5e-9 = 6044629098073146 / 2 ^ 80 := by
    have hu : (5e-9 : Float).toModel.unpack =
        .finite .positive 6044629098073146 (-80) (by norm_num) := by rfl
    rw [value_of_unpack_positive hu, zpow_neg]
    norm_num
  refine ⟨h.1, ((lt_iff _ _).mp h.2.1).2.2, ((le_iff _ _).mp h.2.2).2.2.trans ?_⟩
  rw [hv, value_epsilon]
  norm_num

/-- Settings that are accepted, and a decision whose final scores sum to no more than seven eighths. -/
theorem faintBoost_not_sumsToOne :
    faintBoost.Accepted ∧
      ∃ d, ((Classifier.ofConfig faintBoost).perform (.classify "momentum")).value.1 = .decided d ∧
        d.finalScores.exactTotal ≤ 7 / 8 ∧ ¬d.finalScores.SumsToOne := by
  have ha : faintBoost.Accepted := by
    unfold Accepted
    decide +kernel
  have hr : Classifier.Reachable faintBoost (Classifier.ofConfig faintBoost) := ⟨[], rfl⟩
  have hq : (Operation.classify "momentum").question? faintBoost = some (_, _) := rfl
  have ht (channel : Channel) : faintBoost.trust.get channel = 0 := by
    cases channel <;> rfl
  refine ⟨ha, _, (hr.decided_iff _ _).mpr ⟨_, _, hq, rfl⟩, ?_⟩
  rw [decision_finalScores, decision_fused_of_zero_trust ha ht hq]
  obtain ⟨hfin, hlt, hle⟩ := faintTotal_bounds
  have hone := PerCategory.exactTotal_normalized_le
    (zero_le_unscaledScores ha PerCategory.zero _ _ _) ⟨hfin, hlt⟩ hle
  refine ⟨hone, fun hsum => ?_⟩
  have hge := (abs_le.mp hsum).1
  have := hge.trans (sub_le_sub_right hone 1)
  norm_num at this

end Config
end TextIntent
