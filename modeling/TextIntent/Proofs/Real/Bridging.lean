import TextIntent.Proofs.Real.Repulsion
import TextIntent.Proofs.Decision.Rule

/-! Bridging over the reals, under the default configuration: what each rule makes of scores of a usual
size. -/
namespace TextIntent.Exact

open Scalar Config

variable {s : Scores ℝ}

/-- The effect of each rule of the default configuration. -/
noncomputable def defaultEffect (s : Scores ℝ) : Rule → Scores ℝ
  | .structuralVocabulary => ⟨s.get .greeting, s.get .help, s.get .status, s.get .navigation,
      0.6 * s.get .physics, 0.6 * s.get .operator, 1.5 * s.get .structural, s.get .unknown⟩
  | .operatorKeyword => ⟨s.get .greeting, s.get .help, s.get .status, s.get .navigation,
      0.7 * s.get .physics, 1.4 * s.get .operator, s.get .structural, s.get .unknown⟩
  | .domainTrigger => ⟨s.get .greeting, s.get .help, 0.8 * s.get .status,
      1.3 * s.get .navigation, s.get .physics, s.get .operator, s.get .structural,
      s.get .unknown⟩
  | .positionBand => ⟨s.get .greeting, s.get .help, s.get .status, s.get .navigation,
      0.75 * s.get .physics, s.get .operator + 0.25 * s.get .physics, s.get .structural,
      s.get .unknown⟩
  | .lowSignal => s.transfer s.leader .unknown 0.5

theorem effect_default (s : Scores ℝ) (rule : Rule) :
    (Default.bridge : BridgeSettings ℝ).effect s rule = defaultEffect s rule := by
  cases rule
  case lowSignal => rfl
  all_goals
    refine PerCategory.ext_get fun c => ?_
    simp only [BridgeSettings.effect, Default.bridge, Adjustment.applyAll, List.foldl_cons,
      List.foldl_nil, PerCategory.transfer, PerCategory.get_modify, defaultEffect]
    cases c <;> simp only [reduceCtorEq, if_true, if_false, PerCategory.get] <;> norm_num <;> ring

theorem total_modify_add (s : Scores ℝ) (c : Category) (x : ℝ) :
    (s.modify c (· + x)).total = s.total + x := by
  simp only [total_eq, Category.all, List.map_cons, List.map_nil, List.sum_cons, List.sum_nil,
    PerCategory.get_modify]
  cases c <;> simp only [reduceCtorEq, if_true, if_false] <;> ring

/-- What is moved stays in the total. -/
theorem total_transfer (s : Scores ℝ) (source target : Category) (share : ℝ) :
    (s.transfer source target share).total = s.total := by
  simp only [PerCategory.transfer, sub_eq_add_neg, total_modify_add]
  ring

/-- What each rule adds to the total or takes from it. -/
theorem total_defaultEffect (s : Scores ℝ) (rule : Rule) : (defaultEffect s rule).total =
    match rule with
    | .structuralVocabulary =>
      s.total + 1 / 2 * s.get .structural - 2 / 5 * s.get .physics - 2 / 5 * s.get .operator
    | .operatorKeyword => s.total + 2 / 5 * s.get .operator - 3 / 10 * s.get .physics
    | .domainTrigger => s.total + 3 / 10 * s.get .navigation - 1 / 5 * s.get .status
    | .positionBand => s.total
    | .lowSignal => s.total := by
  cases rule
  case lowSignal => exact total_transfer s s.leader .unknown 0.5
  all_goals
    simp only [total_eq, Category.all, List.map_cons, List.map_nil, List.sum_cons, List.sum_nil,
      defaultEffect, PerCategory.get]
    ring

/-- No rule leads far out of the range of the scores. -/
theorem defaultEffect_bounds (h : ∀ c, 0 ≤ s.get c ∧ s.get c ≤ 8 / 3) (rule : Rule)
    (hl : rule = .lowSignal → s.leader ≠ .unknown) (c : Category) :
    0 ≤ (defaultEffect s rule).get c ∧ (defaultEffect s rule).get c ≤ 6 := by
  cases rule
  case lowSignal =>
    have := h s.leader
    have := h .unknown
    have := h c
    rw [defaultEffect, s.get_transfer (hl rfl)]
    split_ifs <;> constructor <;> linarith
  all_goals
    have hg := h .greeting
    have hh := h .help
    have hs := h .status
    have hn := h .navigation
    have hp := h .physics
    have ho := h .operator
    have ht := h .structural
    have hu := h .unknown
    simp only [PerCategory.get] at hg hh hs hn hp ho ht hu
    cases c <;> simp only [defaultEffect, PerCategory.get] <;> constructor <;> linarith

theorem holds_lowSignal_default {reference v : SlotVector ℝ} {lower : String}
    (h : (Default.bridge : BridgeSettings ℝ).holds reference lower v s .lowSignal = true) :
    s.leader ≠ .unknown ∧ 3 / 5 < s.get s.leader / (s.total + Scalar.epsilon) := by
  have hshare : (Default.bridge : BridgeSettings ℝ).lowSignalShare = 3 / 5 := by
    change (0.6 : ℝ) = _
    norm_num
  simp only [BridgeSettings.holds, Bool.and_eq_true, decide_eq_true_eq, hshare] at h
  exact h.1

/-- Bridging under the default configuration. -/
theorem value_bridge_default (reference v : SlotVector ℝ) (lower : String)
    (h : ∀ c, 0 ≤ s.get c ∧ s.get c ≤ 8 / 3) :
    ((Default.bridge : BridgeSettings ℝ).bridge reference lower v s).value.1 =
      match (Default.bridge : BridgeSettings ℝ).rule? reference lower v s with
      | none => s
      | some rule => defaultEffect s rule := by
  unfold BridgeSettings.bridge
  cases hr : (Default.bridge : BridgeSettings ℝ).rule? reference lower v s with
  | none => rfl
  | some rule =>
    have hbounds := defaultEffect_bounds h rule fun hl =>
      (holds_lowSignal_default (hl ▸ List.find?_some hr)).1
    change ((Default.bridge : BridgeSettings ℝ).effect s rule).nonnegative.value = _
    rw [effect_default]
    exact nonnegative_eq_self (fun c => (hbounds c).1) fun c => (hbounds c).2.trans (by norm_num)

end TextIntent.Exact
