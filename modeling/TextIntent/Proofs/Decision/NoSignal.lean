import TextIntent.Proofs.Decision.Silent

/-! The answer to texts without a signal. Seven of the scores are one and `unknown` has a weight above
one. The weight may be the very next double, but the division by the total and its roundings leave
`unknown` ahead. -/
namespace TextIntent

open Scalar Binary64

namespace Binary64

/-- A fraction with few digits and a power of two below it is a double. -/
theorem rounded_div_two_pow {m k : ℕ} (hm : m < 2 ^ 53) (hk : k ≤ 1000) :
    rounded (m / 2 ^ k) = m / 2 ^ k := by
  have he : ((2 : ℝ) ^ k)⁻¹ = 2 ^ (-(k : ℤ)) := by rw [zpow_neg, zpow_natCast]
  rw [div_eq_mul_inv, he]
  refine rounded_eq_self hm (by unfold leastExponent; omega) ?_
  have hm' : (m : ℝ) ≤ 2 ^ 53 := by exact_mod_cast hm.le
  rw [← he]
  calc (m : ℝ) * (2 ^ k)⁻¹ ≤ m := mul_le_of_le_one_right (Nat.cast_nonneg m)
        (inv_le_one_of_one_le₀ (one_le_pow₀ (by norm_num)))
    _ ≤ 2 ^ 53 := hm'
    _ ≤ limit := pow_le_pow_right₀ (by norm_num) (by norm_num)

/-- The quotients of one and of a larger double by the same number are not rounded to the same double:
either `1 / 8` is not below the greater one only, or both are so small that doubles lie close enough. -/
theorem rounded_inv_lt_rounded_div {w D : ℝ} (hw : 1 + 2 ^ (-52 : ℤ) ≤ w)
    (hlo : 8 + 1 / 2 ^ 40 ≤ D) (hhi : D ≤ 9 + 2 * (w - 1)) :
    rounded (1 / D) < rounded (w / D) := by
  have hunit : (2 : ℝ) ^ (-52 : ℤ) = 1 / 2 ^ 52 := by rw [zpow_neg, one_div]; norm_num
  have hplace : (2 : ℝ) ^ (-3 - 53 : ℤ) = 1 / 2 ^ 56 := by
    rw [show (-3 - 53 : ℤ) = -56 by norm_num, zpow_neg, one_div]
    norm_num
  rw [hunit] at hw
  have hD : 0 < D := by linarith [show (0 : ℝ) < 1 / 2 ^ 40 by positivity]
  rcases lt_or_ge (w / D) (1 / 8) with hlt | hge
  · refine rounded_lt_rounded (k := -3) (by positivity) (by decide) (by norm_num) ?_ ?_
    · rwa [show (2 : ℝ) ^ (-3 : ℤ) = 1 / 8 by norm_num]
    · rw [hplace, ← sub_div, lt_div_iff₀ hD]
      linarith
  · have hbelow : rounded (1 / D) ≤ 17592186044415 / 2 ^ 47 := by
      have hd := rounded_div_two_pow (m := 17592186044415) (k := 47) (by norm_num) (by norm_num)
      push_cast at hd
      rw [← hd]
      refine rounded_mono ?_
      rw [div_le_div_iff₀ hD (by positivity)]
      linarith
    have habove : 1 / 8 ≤ rounded (w / D) := by
      have hd := rounded_div_two_pow (m := 1) (k := 3) (by norm_num) (by norm_num)
      rw [show ((1 : ℕ) : ℝ) / 2 ^ 3 = 1 / 8 by norm_num] at hd
      rw [← hd]
      exact rounded_mono hge
    exact hbelow.trans_lt (lt_of_lt_of_le (by norm_num) habove)

end Binary64

namespace Config

open PerCategory

variable {config : Config Float}

theorem one_lt_value_noSignalWeight (h : config.Accepted) : 1 < value config.noSignalWeight :=
  value_one ▸ ((lt_iff _ _).mp h.noSignalWeight.2).2.2

theorem isNearest_total_evenScores (h : config.Accepted) :
    IsNearest config.evenScores.total (7 + value config.noSignalWeight) := by
  have htotal : config.evenScores.total =
      sum (List.replicate 7 (1 : Float)) + config.noSignalWeight := rfl
  have hseven : sum (List.replicate 7 (1 : Float)) = Float.ofNat 7 := by decide +kernel
  have hv : value (Float.ofNat 7) = 7 := by
    rw [value_natCast (by norm_num)]
    norm_num
  rw [htotal, hseven, ← hv]
  refine isNearest_add_of_zero_le (by decide +kernel) ?_
  exact Binary64.le_trans Binary64.zero_le_one (Binary64.le_of_lt h.noSignalWeight.2)

/-- The denominator is a little above eight, and not much larger than the weight. -/
theorem value_total_evenScores_add_epsilon (h : config.Accepted)
    (ht : config.evenScores.total.isFinite = true) :
    8 + 1 / 2 ^ 40 ≤ value (config.evenScores.total + epsilon) ∧
      value (config.evenScores.total + epsilon) ≤ 9 + 2 * (value config.noSignalWeight - 1) := by
  have hw := one_lt_value_noSignalWeight h
  have hT := isNearest_total_evenScores h
  have hD := isNearest_add_epsilon ht
  have hT₈ : 8 ≤ value config.evenScores.total := by
    have h₈ := rounded_natCast (n := 8) (by norm_num)
    push_cast at h₈
    rw [hT.2, ← h₈]
    exact rounded_mono (by linarith)
  constructor
  · have hd := rounded_div_two_pow (m := 8796093022209) (k := 40) (by norm_num) (by norm_num)
    rw [show ((8796093022209 : ℕ) : ℝ) / 2 ^ 40 = 8 + 1 / 2 ^ 40 by norm_num] at hd
    have hε : 1 / 2 ^ 40 ≤ value epsilon := by
      rw [value_epsilon]
      norm_num
    rw [hD.2, ← hd]
    exact rounded_mono (by linarith)
  · have hDf := isFinite_add_epsilon (zero_le_total (zero_le_evenScores h)) ht
    have hTe := (abs_le.mp (hT.abs_sub_le ht)).2
    have hDe := (abs_le.mp (hD.abs_sub_le hDf)).2
    have hε₀ := epsilon_pos
    rw [abs_of_pos (by linarith)] at hTe hDe
    have hε : value epsilon < 1 / 2 ^ 20 := by
      rw [value_epsilon]
      norm_num
    have htiny : (2 : ℝ) ^ leastExponent ≤ 1 / 2 ^ 60 :=
      tiny_le.trans (div_le_div_of_nonneg_right epsilon_lt_one.le (by positivity))
    linarith

/-- After the division `unknown` is ahead. -/
theorem noSignalScores_lt (h : config.Accepted) {c : Category} (hc : c ≠ .unknown) :
    config.noSignalScores.get c < config.noSignalScores.get .unknown := by
  change config.evenScores.normalized.get c < config.evenScores.normalized.get .unknown
  by_cases ht : config.evenScores.HasTotal
  · obtain ⟨hlo, hhi⟩ := value_total_evenScores_add_epsilon h ht.1
    have hDf := isFinite_add_epsilon (zero_le_total (zero_le_evenScores h)) ht.1
    have hD : value (config.evenScores.total + epsilon) ≠ 0 := by
      have : (0 : ℝ) < 1 / 2 ^ 40 := by positivity
      linarith
    have hone := isNearest_div (x := 1) rfl hDf hD
    have hweight := isNearest_div h.noSignalWeight.1 hDf hD
    rw [normalized_of_hasTotal ht, get_map, get_map, get_evenScores, get_evenScores, if_neg hc,
      if_pos rfl]
    rw [value_one] at hone
    refine (lt_iff _ _).mpr ⟨hone.1, hweight.1, ?_⟩
    rw [hone.2, hweight.2]
    exact rounded_inv_lt_rounded_div (one_add_le_value (one_lt_value_noSignalWeight h)) hlo hhi
  · rw [normalized_of_not_hasTotal ht, PerCategory.set, get_modify, get_modify, if_neg hc, if_pos rfl, get_zero,
      lt_iff, value_zero, value_one]
    exact ⟨isNearest_zero.1, isNearest_one.1, one_pos⟩

theorem leader_noSignalScores (h : config.Accepted) : config.noSignalScores.leader = .unknown := by
  refine leader_eq_of_lt (fun d => defined_of_zero_le ?_) fun d => noSignalScores_lt h
  exact (normalized_mem_unit (fun c _ => zero_le_evenScores h c) d).1

/-- A silent text is answered exactly as the empty text is, with the same reports and the same state
after it. The category is `unknown`, no bridging rule takes effect, and neither filters nor masses
have any influence on the final scores and the confidence. -/
theorem silent_text_answered_as_empty (h : config.Accepted) {cls : Classifier Float}
    (hr : Classifier.Reachable config cls) {text : String}
    (ht : config.Silent (Text.lower text)) :
    cls.perform (.classify text) = cls.perform (.classify "") ∧
      ∃ d, (cls.perform (.classify text)).value.1 = .decided d ∧ d.category = .unknown ∧
        d.rule = none ∧ d.finalScores = config.noSignalScores ∧
          d.confidence = config.noSignalConfidence := by
  have hzero : Scalar.isZero (0 : Float) = true := by decide +kernel
  have hc := hr.config_eq
  have hempty : Text.lower "" = "" := by decide +kernel
  have he := ht.empty
  constructor
  · simp only [Classifier.perform, Classifier.classify, hc, hempty, ht.ofLower_eq hzero,
      he.ofLower_eq hzero, ht.run_eq hzero he hc]
  · obtain ⟨hs, hrule, hcat, hconf⟩ :=
      ht.decision_finalScores hzero cls.matrix cls.gates cls.mass
    rw [leader_noSignalScores h] at hcat hconf
    refine ⟨_, (hr.decided_iff (.classify text) _).mpr
      ⟨_, _, rfl, ?_⟩, hcat, hrule, hs, hconf⟩
    rw [ht.ofLower_eq hzero]

/-- Two full stops, after feedback. -/
theorem two_full_stops_answered_as_empty :
    let cls := (Classifier.ofConfig (Config.default : Config Float)).after
      [.feedback .greeting .status]
    (Config.default : Config Float).Accepted ∧ Classifier.Reachable Config.default cls ∧
      (Config.default : Config Float).Silent (Text.lower "..") ∧
        cls.perform (.classify "..") = cls.perform (.classify "") := by
  intro cls
  have hr : Classifier.Reachable Config.default cls := ⟨_, rfl⟩
  have ht : (Config.default : Config Float).Silent (Text.lower "..") := by decide +kernel
  exact ⟨default_accepted, hr, ht, (silent_text_answered_as_empty default_accepted hr ht).1⟩

end Config
end TextIntent
