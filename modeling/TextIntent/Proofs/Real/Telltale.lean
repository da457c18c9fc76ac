import TextIntent.Proofs.Real.Leader
import TextIntent.Proofs.Real.Shares

/-! Telltale words under the default configuration. One of them keeps the scores from being flat, whatever the
rest of the text and whatever has been learnt. -/
namespace TextIntent.Exact

open Scalar Config Classifier

section Hits

variable {lower : String}

theorem telltaleHits_default_le (lower : String) (c : Category) :
    telltaleHits (Default.suppression : SuppressionSettings ℝ) lower c ≤ 3 := by
  have hcount (words : List String) (h : words.length ≤ 3) :
      words.countP (Text.occurs · lower) ≤ 3 := List.countP_le_length.trans h
  cases c <;> simp only [telltaleHits, Default.suppression, List.map_cons, List.map_nil,
    List.sum_cons, List.sum_nil, reduceCtorEq, if_true, if_false, zero_add, add_zero]
  all_goals first | exact hcount _ (by decide) | exact Nat.zero_le 3

/-- A telltale word is counted for its category. -/
theorem telltaleHits_ne_zero {s : SuppressionSettings ℝ} {table : CategoryWords}
    (ht : table ∈ s.discriminative) {word : String} (hw : word ∈ table.words)
    (ho : Text.occurs word lower = true) : telltaleHits s lower table.category ≠ 0 := by
  intro hzero
  have hterm := List.sum_eq_zero_iff.mp hzero _ (List.mem_map_of_mem ht)
  rw [if_pos rfl, List.countP_eq_zero] at hterm
  exact hterm word hw ho

/-- Where nothing speaks for `physics`, no telltale word does. -/
theorem telltaleHits_physics_eq_zero
    (h : Text.occursAny (Default.bridge : BridgeSettings ℝ).physicsCues lower = false) :
    telltaleHits (Default.suppression : SuppressionSettings ℝ) lower .physics = 0 := by
  have hcues : ∀ word ∈ ["gravity", "momentum", "velocity"],
      word ∈ (Default.bridge : BridgeSettings ℝ).physicsCues := by decide
  have hcount : ["gravity", "momentum", "velocity"].countP (Text.occurs · lower) = 0 := by
    rw [List.countP_eq_zero]
    intro word hw ho
    have := Text.occursAny_iff.mpr ⟨word, hcues word hw, ho⟩
    simp [h] at this
  simp only [telltaleHits, Default.suppression, List.map_cons, List.map_nil, List.sum_cons,
    List.sum_nil, reduceCtorEq, if_true, if_false, hcount, add_zero]

theorem total_boost (s : SuppressionSettings ℝ) (lower : String) (scores : Scores ℝ) :
    (s.boost lower scores).total = scores.total +
      ((Category.all.map (telltaleHits s lower)).sum : ℕ) * s.boostIncrement := by
  simp only [total_eq, funext (get_boost s lower scores), Category.all, List.map_cons, List.map_nil,
    List.sum_cons, List.sum_nil]
  push_cast
  ring

theorem telltaleHits_unknown (lower : String) :
    telltaleHits (Default.suppression : SuppressionSettings ℝ) lower .unknown = 0 := rfl

/-- Fused scores that are raised by the telltale words of the default configuration. -/
theorem boosted_boost {fused : Scores ℝ} (h₀ : ∀ c, 0 ≤ fused.get c) (h₁ : fused.total ≤ 1)
    (hu : fused.get .unknown ≤ 23 / 160) (lower : String) :
    Boosted (telltaleHits (Default.suppression : SuppressionSettings ℝ) lower)
        ((Default.suppression : SuppressionSettings ℝ).boost lower fused) ∧
      ∀ c, ((Default.suppression : SuppressionSettings ℝ).boost lower fused).get c ≤ 8 / 3 := by
  have hincrement : (Default.suppression : SuppressionSettings ℝ).boostIncrement = 3 / 10 := by
    change (0.3 : ℝ) = _
    norm_num
  have hget (c : Category) := get_boost (Default.suppression : SuppressionSettings ℝ) lower fused c
  rw [hincrement] at hget
  refine ⟨⟨fun c => ?_, fun c => ?_, ?_, ?_⟩, fun c => ?_⟩
  · rw [hget]
    have := h₀ c
    positivity
  · rw [hget]
    linarith [h₀ c]
  · rw [total_boost, hincrement]
    linarith
  · rw [hget, telltaleHits_unknown]
    push_cast
    linarith
  · have hhits : (telltaleHits (Default.suppression : SuppressionSettings ℝ) lower c : ℝ) ≤ 3 := by
      exact_mod_cast telltaleHits_default_le lower c
    rw [hget]
    linarith [get_le_total h₀ c]

end Hits

section Bridged

variable {lower : String} {fused : Scores ℝ}

/-- A telltale word keeps the scores from being flat, whatever the fused scores and the masses. -/
theorem not_flat_bridgedScores (h₀ : ∀ c, 0 ≤ fused.get c) (h₁ : fused.total ≤ 1)
    (hu : fused.get .unknown ≤ 23 / 160) (mass : Scores ℝ) (v : SlotVector ℝ)
    (htelltale : ∃ c, telltaleHits (Default.suppression : SuppressionSettings ℝ) lower c ≠ 0) :
    ¬Flat (bridgedScores Config.default mass lower v fused) := by
  obtain ⟨hboosted, hle⟩ := boosted_boost h₀ h₁ hu lower
  set b := (Default.suppression : SuppressionSettings ℝ).boost lower fused with hb
  have hrepelled := defaultRepelled_suppress mass fun c => ⟨hboosted.nonneg c, hle c⟩
  set s := ((Default.suppression : SuppressionSettings ℝ).suppress mass b).value with hs
  have hsize (c : Category) : 0 ≤ s.get c ∧ s.get c ≤ 8 / 3 :=
    ⟨hrepelled.get_nonneg hboosted.nonneg c, (hrepelled.get_le c).trans (hle c)⟩
  change ¬Flat ((Default.bridge : BridgeSettings ℝ).bridge (Default.features : FeatureSettings ℝ).reference
    lower v s).value.1
  rw [value_bridge_default _ v lower hsize]
  cases hr : (Default.bridge : BridgeSettings ℝ).rule?
      (Default.features : FeatureSettings ℝ).reference lower v s with
  | none =>
    obtain ⟨x, r, -⟩ := hrepelled.requests
    exact not_flat_of_sciences_unchanged hboosted htelltale hrepelled rfl rfl rfl
      (by linarith [r.second_nonneg]) le_rfl rfl rfl rfl
  | some rule =>
    have hholds := List.find?_some hr
    refine not_flat_defaultEffect hboosted htelltale hrepelled rule (fun hrule => ?_) fun hrule => ?_
    · subst hrule
      exact telltaleHits_physics_eq_zero
        ((BridgeSettings.holds_structuralVocabulary _ _ _ _ _).mp hholds).2.1
    · subst hrule
      exact holds_lowSignal_default hholds

end Bridged

end TextIntent.Exact
