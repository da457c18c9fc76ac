import TextIntent.Proofs.Decision.Stages
import TextIntent.Proofs.Scores.Distribution

/-! The scores that decide. They are suppressed and bridged scores divided by their total, and since
nothing undefined, infinite or negative leaves suppression or bridging, they lie between zero and one
and the leader has some of them, whatever went in. -/
namespace TextIntent

open Scalar Binary64

namespace PerCategory

variable {s : Scores Float}

theorem exists_pos_of_exactTotal_pos (h : 0 < s.exactTotal) : ∃ c, 0 < value (s.get c) := by
  by_contra hn
  push Not at hn
  have hle := List.sum_le_card_nsmul (s.toList.map value) 0
    (List.forall_mem_map.mpr (forall_mem_toList.mpr hn))
  rw [smul_zero] at hle
  exact not_lt.mpr hle h

theorem shortfall_lt_half {t : ℝ} (h : value epsilon < t) : shortfall t < 1 / 2 := by
  have := epsilon_pos
  rw [shortfall, div_lt_div_iff₀ (by linarith) (by norm_num)]
  linarith

/-- Normalized scores are not all zero. -/
theorem exists_normalized_pos (h : ∀ c, 0 ≤ s.get c) : ∃ c, 0 < value (s.normalized.get c) := by
  by_cases ht : s.HasTotal
  · have hsum := (abs_le.mp (abs_exactTotal_normalized_sub_le h ht)).1
    have hs := shortfall_lt_half ht.2
    have hsmall : (2 : ℝ) ^ (-45 : ℤ) < 1 / 2 := by
      rw [zpow_neg]
      norm_num
    generalize (2 : ℝ) ^ (-45 : ℤ) = d at *
    exact exists_pos_of_exactTotal_pos (by linarith)
  · refine ⟨.unknown, ?_⟩
    rw [normalized_of_not_hasTotal ht, set, get_modify, if_pos rfl, value_one]
    exact one_pos

theorem normalized_leader_pos (h : ∀ c, 0 ≤ s.get c) :
    0 < s.normalized.get s.normalized.leader := by
  obtain ⟨c, hc⟩ := exists_normalized_pos h
  have hd (d : Category) : Defined (s.normalized.get d) :=
    defined_of_zero_le (normalized_mem_unit (fun d _ => h d) d).1
  have hle := ((le_iff _ _).mp (get_le_leader hd c)).2.2
  rw [lt_iff, value_zero]
  exact ⟨isNearest_zero.1, hd _, hc.trans_le hle⟩

end PerCategory

theorem SuppressionSettings.zero_le_suppress (s : SuppressionSettings Float)
    (mass scores : Scores Float) (c : Category) : 0 ≤ (s.suppress mass scores).value.get c := by
  unfold suppress
  exact PerCategory.zero_le_nonnegative _ c

/-- Bridging keeps scores from being negative or undefined, with a rule and without. -/
theorem BridgeSettings.zero_le_bridge (b : BridgeSettings Float) (reference : SlotVector Float)
    (lower : String) (signature : SlotVector Float) {scores : Scores Float}
    (h : ∀ c, 0 ≤ scores.get c) (c : Category) :
    0 ≤ (b.bridge reference lower signature scores).value.1.get c := by
  unfold bridge
  cases b.rule? reference lower signature scores with
  | none => exact h c
  | some rule => exact PerCategory.zero_le_nonnegative (b.effect scores rule) c

namespace Config

theorem zero_le_bridgedScores (config : Config Float) (mass : Scores Float) (lower : String)
    (signature : SlotVector Float) (fused : Scores Float) (c : Category) :
    0 ≤ (config.bridgedScores mass lower signature fused).get c :=
  config.bridge.zero_le_bridge _ lower signature
    (config.suppression.zero_le_suppress mass _) c

/-- Whatever the settings, the masses and the fused scores, undefined and infinite ones among them: the
scores in the end are numbers from zero to one, and that of the leader is positive. -/
theorem normalized_bridged_mem_unit (config : Config Float) (mass : Scores Float) (lower : String)
    (signature : SlotVector Float) (fused : Scores Float) :
    let boosted := config.suppression.boost lower fused
    let suppressed := (config.suppression.suppress mass boosted).value
    let bridged :=
      (config.bridge.bridge config.features.reference lower signature suppressed).value.1
    let scores := bridged.normalized
    (∀ c, 0 ≤ scores.get c ∧ scores.get c ≤ 1) ∧ 0 < scores.get scores.leader := by
  have h := config.zero_le_bridgedScores mass lower signature fused
  exact ⟨PerCategory.normalized_mem_unit fun c _ => h c, PerCategory.normalized_leader_pos h⟩

end Config
end TextIntent
