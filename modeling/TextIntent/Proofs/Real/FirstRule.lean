import TextIntent.Proofs.Real.Bridging
import TextIntent.Proofs.Real.Config
import TextIntent.Proofs.Decision.Redirection
import TextIntent.Proofs.Text.Runs

/-! Bridging over the reals, under every accepted configuration: the first rule whose condition holds on the
scores that come in, and the effect of that rule alone. Factors that are listed twice for a category both count,
so a list of them comes down to one product for each category. A transfer keeps the total, also when its two sides
are the same category. -/
namespace TextIntent.Exact

open Scalar Config

section Conditions

variable (b : BridgeSettings ℝ) (reference : SlotVector ℝ) (lower : String) (signature : SlotVector ℝ)
  (scores : Scores ℝ)

/-- One of the words stands somewhere in the text. -/
def Mentions (words : List String) (lower : String) : Prop :=
  ∃ w ∈ words, w.toList <:+: lower.toList

/-- What each rule asks of the text, of the signature and of the scores. -/
def Triggered : Rule → Prop
  | .structuralVocabulary => Mentions b.structuralWords lower ∧ ¬Mentions b.physicsCues lower ∧
      ¬Mentions b.operatorSymbols lower
  | .operatorKeyword => Mentions b.operatorWords lower
  | .domainTrigger => Text.StandsIn b.domainTrigger.toList lower.toList
  | .positionBand => scores.leader = b.bandLeader ∧ b.bandLow ≤ b.position reference signature ∧
      b.position reference signature ≤ b.bandHigh ∧ b.bandSecondaryFloor ≤ scores.get b.bandSecondary
  | .lowSignal => scores.leader ≠ .unknown ∧
      b.lowSignalShare < scores.get scores.leader / (scores.total + epsilon) ∧
      0 < b.lowSignalMax ∧ ∀ x ∈ signature.toList, x < b.lowSignalMax

theorem occursAny_iff_mentions {words : List String} {lower : String} :
    Text.occursAny words lower = true ↔ Mentions words lower := by
  simp only [Text.occursAny_iff, Text.occurs_iff, Mentions]

theorem peak_lt_iff {xs : List ℝ} {bound : ℝ} : peak xs < bound ↔ 0 < bound ∧ ∀ x ∈ xs, x < bound := by
  induction xs using List.reverseRecOn with
  | nil => simp
  | append_singleton xs x ih =>
    rw [peak_concat, larger_eq, max_lt_iff, ih, List.forall_mem_append, List.forall_mem_singleton, and_assoc]

theorem holds_iff_triggered (rule : Rule) :
    b.holds reference lower signature scores rule = true ↔
      Triggered b reference lower signature scores rule := by
  cases rule with
  | structuralVocabulary =>
    simp only [BridgeSettings.holds, Bool.and_eq_true, Bool.not_eq_true', ← Bool.not_eq_true,
      occursAny_iff_mentions, and_assoc, Triggered]
  | operatorKeyword => exact occursAny_iff_mentions
  | domainTrigger => exact Text.containsWord_iff
  | positionBand =>
    simp only [BridgeSettings.holds, Bool.and_eq_true, decide_eq_true_eq, and_assoc, Triggered]
  | lowSignal =>
    simp only [BridgeSettings.holds, Bool.and_eq_true, decide_eq_true_eq, and_assoc, peak_lt_iff, Triggered]

variable {b reference lower signature scores} {rule : Rule}

theorem rule?_eq_some_iff : b.rule? reference lower signature scores = some rule ↔
    Triggered b reference lower signature scores rule ∧ ∃ earlier later,
      Rule.all = earlier ++ rule :: later ∧ ∀ r ∈ earlier, ¬Triggered b reference lower signature scores r := by
  simp only [BridgeSettings.rule?, List.find?_eq_some_iff_append, Bool.not_eq_true', ← Bool.not_eq_true,
    holds_iff_triggered]

theorem rule?_eq_none_iff : b.rule? reference lower signature scores = none ↔
    ∀ rule, ¬Triggered b reference lower signature scores rule := by
  simp only [BridgeSettings.rule?, List.find?_eq_none, holds_iff_triggered, Rule.mem_all, true_implies]

end Conditions

section Effects

variable {s : Scores ℝ} {b : BridgeSettings ℝ}

/-- The product of all factors that are listed for a category. -/
noncomputable def listedFactor (adjustments : List (Adjustment ℝ)) (c : Category) : ℝ :=
  ((adjustments.filter (·.category = c)).map (·.factor)).prod

theorem get_applyAll (adjustments : List (Adjustment ℝ)) (s : Scores ℝ) (c : Category) :
    (Adjustment.applyAll adjustments s).get c = s.get c * listedFactor adjustments c := by
  induction adjustments generalizing s with
  | nil => exact (mul_one _).symm
  | cons a rest ih =>
    have hstep : Adjustment.applyAll (a :: rest) s =
        Adjustment.applyAll rest (s.modify a.category (· * a.factor)) := rfl
    rw [hstep, ih, PerCategory.get_modify]
    by_cases hc : a.category = c
    · simp [listedFactor, hc, mul_assoc]
    · simp [listedFactor, hc, Ne.symm hc]

theorem listedFactor_nonneg {adjustments : List (Adjustment ℝ)} (h : ∀ a ∈ adjustments, 0 ≤ a.factor)
    (c : Category) : 0 ≤ listedFactor adjustments c := by
  refine List.prod_nonneg fun x hx => ?_
  obtain ⟨a, ha, rfl⟩ := List.mem_map.mp hx
  exact h a (List.mem_of_mem_filter ha)

theorem applyAll_nonneg {adjustments : List (Adjustment ℝ)} (h : ∀ c, 0 ≤ s.get c)
    (hf : ∀ a ∈ adjustments, 0 ≤ a.factor) (c : Category) : 0 ≤ (Adjustment.applyAll adjustments s).get c := by
  rw [get_applyAll]
  exact mul_nonneg (h c) (listedFactor_nonneg hf c)

/-- What a transfer of an amount changes. -/
structure Transferred (before after : Scores ℝ) (source target : Category) (amount : ℝ) : Prop where
  total : after.total = before.total
  others (c : Category) : c ≠ source → c ≠ target → after.get c = before.get c
  taken : source ≠ target → after.get source = before.get source - amount
  given : source ≠ target → after.get target = before.get target + amount

theorem transferred_transfer (s : Scores ℝ) (source target : Category) (share : ℝ) :
    Transferred s (s.transfer source target share) source target (s.get source * share) where
  total := total_transfer s source target share
  others c hs ht := by
    simp only [PerCategory.transfer, PerCategory.get_modify, if_neg hs, if_neg ht]
  taken h := by rw [s.get_transfer h, if_neg h, if_pos rfl]
  given h := by rw [s.get_transfer h, if_pos rfl]

theorem transfer_nonneg (h : ∀ c, 0 ≤ s.get c) (source target : Category) {share : ℝ} (h₀ : 0 ≤ share)
    (h₁ : share ≤ 1) (c : Category) : 0 ≤ (s.transfer source target share).get c := by
  have hmoved := mul_nonneg (h source) h₀
  have hkept := mul_le_of_le_one_right (h source) h₁
  have hc := h c
  simp only [PerCategory.transfer, PerCategory.get_modify]
  by_cases hs : c = source
  · subst hs
    split_ifs <;> linarith
  · split_ifs <;> linarith

/-- What each rule makes of the scores. -/
def Applied (b : BridgeSettings ℝ) (before after : Scores ℝ) : Rule → Prop
  | .structuralVocabulary => ∀ c, after.get c = before.get c * listedFactor b.structuralEffect c
  | .operatorKeyword => ∀ c, after.get c = before.get c * listedFactor b.operatorEffect c
  | .domainTrigger => ∀ c, after.get c = before.get c * listedFactor b.domainEffect c
  | .positionBand => Transferred before after b.bandLeader b.bandSecondary
      (before.get b.bandLeader * b.bandTransfer)
  | .lowSignal => Transferred before after before.leader .unknown
      (before.get before.leader * b.lowSignalTransfer)

theorem applied_effect (b : BridgeSettings ℝ) (s : Scores ℝ) (rule : Rule) :
    Applied b s (b.effect s rule) rule := by
  cases rule with
  | structuralVocabulary => exact get_applyAll b.structuralEffect s
  | operatorKeyword => exact get_applyAll b.operatorEffect s
  | domainTrigger => exact get_applyAll b.domainEffect s
  | positionBand => exact transferred_transfer s b.bandLeader b.bandSecondary b.bandTransfer
  | lowSignal => exact transferred_transfer s s.leader .unknown b.lowSignalTransfer

/-- Accepted settings take no score below zero. -/
theorem effect_nonneg (hb : b.Accepted) (h : ∀ c, 0 ≤ s.get c) (rule : Rule) (c : Category) :
    0 ≤ (b.effect s rule).get c := by
  obtain ⟨-, -, hband, -, hlow, -, -, hfactors, -⟩ := (bridgeChecks_iff b).mp hb
  simp only [List.forall_mem_append] at hfactors
  obtain ⟨⟨hstructural, hoperator⟩, hdomain⟩ := hfactors
  cases rule with
  | structuralVocabulary => exact applyAll_nonneg h hstructural c
  | operatorKeyword => exact applyAll_nonneg h hoperator c
  | domainTrigger => exact applyAll_nonneg h hdomain c
  | positionBand => exact transfer_nonneg h _ _ hband.1 hband.2 c
  | lowSignal => exact transfer_nonneg h _ _ hlow.1 hlow.2 c

/-- A score that ends up below the largest number has not been cut off there. -/
theorem nonnegative_eq_of_lt (h : ∀ c, 0 ≤ s.get c) (hlt : ∀ c, s.nonnegative.value.get c < maxFinite) :
    s.nonnegative.value = s := by
  refine PerCategory.ext_get fun c => ?_
  have hc := hlt c
  rw [PerCategory.get_value_nonnegative, value_confine] at hc ⊢
  refine clamp_of_mem (h c) (not_lt.mp fun hgt => ?_)
  rw [clamp, if_neg (not_lt.mpr (h c)), if_pos hgt] at hc
  exact lt_irrefl _ hc

end Effects

variable {b : BridgeSettings ℝ} {scores : Scores ℝ}

/-- Bridging reports the first rule that holds on the scores that come in, and none if no rule does. Without a
rule the scores stay as they are, with one they are what that rule makes of them, and none gets below zero. -/
theorem bridge_first_rule (hb : b.Accepted) (reference : SlotVector ℝ) (lower : String)
    (signature : SlotVector ℝ) (h₀ : ∀ c, 0 ≤ scores.get c) :
    let order : List Rule :=
      [.structuralVocabulary, .operatorKeyword, .domainTrigger, .positionBand, .lowSignal]
    let out := (b.bridge reference lower signature scores).value
    (∀ rule, out.2 = some rule ↔ Triggered b reference lower signature scores rule ∧ ∃ earlier later,
      order = earlier ++ rule :: later ∧
        ∀ r ∈ earlier, ¬Triggered b reference lower signature scores r) ∧
    (out.2 = none ↔ ∀ rule, ¬Triggered b reference lower signature scores rule) ∧
    (out.2 = none → out.1 = scores) ∧
    (∀ rule, out.2 = some rule → (∀ c, out.1.get c < maxFinite) → Applied b scores out.1 rule) ∧
    ∀ c, 0 ≤ out.1.get c := by
  intro order out
  have hrule : out.2 = b.rule? reference lower signature scores := b.value_bridge_rule _ _ _ _
  have hnone (h : out.2 = none) : out.1 = scores := by
    simp only [out, BridgeSettings.bridge, hrule.symm.trans h]
    rfl
  have hsome {rule : Rule} (h : out.2 = some rule) : out.1 = (b.effect scores rule).nonnegative.value :=
    BridgeSettings.value_bridge_of_rule? (hrule.symm.trans h)
  refine ⟨fun rule => ?_, ?_, hnone, fun rule h hlt => ?_, fun c => ?_⟩
  · rw [hrule]
    exact rule?_eq_some_iff
  · rw [hrule]
    exact rule?_eq_none_iff
  · rw [hsome h] at hlt ⊢
    rw [nonnegative_eq_of_lt (effect_nonneg hb h₀ rule) hlt]
    exact applied_effect b scores rule
  · cases h : out.2 with
    | none => exact (hnone h).symm ▸ h₀ c
    | some rule => exact (hsome h).symm ▸ nonnegative_nonneg _ c

/-- A text that meets the conditions of two rules. -/
theorem bridge_first_rule_of_two :
    let b : BridgeSettings ℝ := Default.bridge
    let text := "classify this operator into a category"
    let even : Scores ℝ := .const 1
    let holds := Triggered b Default.features.reference text .zero even
    let out := (b.bridge Default.features.reference text .zero even).value
    b.Accepted ∧ (∀ c, 0 ≤ even.get c) ∧ holds .structuralVocabulary ∧ holds .operatorKeyword ∧
      out.2 = some .structuralVocabulary ∧ (∀ c, out.1.get c < maxFinite) ∧
      out.1.get .structural = 1.5 ∧ out.1.get .operator = 0.6 ∧ out.1.get .help = 1 := by
  intro b text even holds out
  have hb : b.Accepted := default_accepted.bridge
  have h₀ (c : Category) : 0 ≤ even.get c := by
    rw [PerCategory.get_const]
    exact zero_le_one
  have hstructural : holds .structuralVocabulary := by
    refine (holds_iff_triggered b _ text _ even .structuralVocabulary).mp ?_
    decide +kernel
  have hoperator : holds .operatorKeyword := by
    refine (holds_iff_triggered b _ text _ even .operatorKeyword).mp ?_
    decide +kernel
  obtain ⟨hfirst, -, -, happlied, -⟩ := bridge_first_rule hb Default.features.reference text .zero h₀
  have hrule : out.2 = some .structuralVocabulary :=
    (hfirst .structuralVocabulary).mpr ⟨hstructural, [], _, rfl, fun r hr => absurd hr List.not_mem_nil⟩
  have hone (c : Category) : 0 ≤ even.get c ∧ even.get c ≤ 8 / 3 := by
    rw [PerCategory.get_const]
    norm_num
  have hlt (c : Category) : out.1.get c < maxFinite := by
    have hfound : (Default.bridge : BridgeSettings ℝ).rule? Default.features.reference text .zero even =
        some .structuralVocabulary := (b.value_bridge_rule _ _ _ _).symm.trans hrule
    have heffect : out.1 = defaultEffect even .structuralVocabulary := by
      refine (value_bridge_default Default.features.reference .zero text hone).trans ?_
      rw [hfound]
    have hle := (defaultEffect_bounds hone .structuralVocabulary (fun h => nomatch h) c).2
    rw [heffect]
    linarith [thousand_le_maxFinite]
  have hout (c : Category) : out.1.get c = listedFactor b.structuralEffect c := by
    rw [happlied .structuralVocabulary hrule hlt c, PerCategory.get_const, one_mul]
  refine ⟨hb, h₀, hstructural, hoperator, hrule, hlt, ?_, ?_, ?_⟩
  all_goals simp [hout, listedFactor, b, Default.bridge]

end TextIntent.Exact
