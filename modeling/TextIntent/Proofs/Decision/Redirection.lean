import TextIntent.Proofs.Decision.Rule
import TextIntent.Proofs.RealValued
import TextIntent.Proofs.Scores.Distribution

/-! Who leads after the low-signal rule. The rule moves a share of the leader's score to `unknown`, and that need
not be enough: with a half of it the two are level if `unknown` had nothing, and level scores are decided for the
earlier category; and a runner-up that is left alone may be ahead of both. It is enough when more than a half is
moved and the leader had so much of the total that no runner-up can reach what is moved. -/
namespace TextIntent

open Scalar Binary64

namespace Binary64

/-- A rounded result is not much smaller than the result itself. -/
theorem IsNearest.sub_error_le {x : Float} {r : ℝ} (h : IsNearest x r) (hx : x.isFinite = true)
    (hr : 0 ≤ r) : r - r / 2 ^ 53 - 2 ^ leastExponent / 2 ≤ value x := by
  have herr := (abs_le.mp (h.abs_sub_le hx)).1
  rw [abs_of_nonneg hr] at herr
  linarith

theorem two_pow_le_half_epsilon : (2 : ℝ) ^ (-1000 : ℤ) ≤ value epsilon / 2 := by
  rw [value_epsilon]
  calc (2 : ℝ) ^ (-1000 : ℤ) ≤ 2 ^ (-32 : ℤ) := zpow_le_zpow_right₀ (by norm_num) (by norm_num)
    _ ≤ 4835703278458517 / 2 ^ 82 / 2 := by
      rw [zpow_neg]
      norm_num

end Binary64

namespace BridgeSettings

variable {α : Type} [Scalar α]

/-- The settings meet every demand on them. -/
def Accepted (b : BridgeSettings α) : Prop := ∀ check ∈ Config.bridgeChecks b, check = none

instance (b : BridgeSettings α) : Decidable b.Accepted :=
  inferInstanceAs (Decidable (∀ check ∈ Config.bridgeChecks b, check = none))

theorem inUnit_of_demandUnit {q : Quantity} {x : Float} (h : demandUnit q x = none) : InUnit x := by
  unfold demandUnit at h
  split_ifs at h with hx
  exact hx

theorem Accepted.inUnit_lowSignalShare {b : BridgeSettings Float} (h : b.Accepted) :
    InUnit b.lowSignalShare :=
  inUnit_of_demandUnit (h (demandUnit .lowSignalShare b.lowSignalShare) (by simp [Config.bridgeChecks]))

theorem Accepted.inUnit_lowSignalTransfer {b : BridgeSettings Float} (h : b.Accepted) :
    InUnit b.lowSignalTransfer :=
  inUnit_of_demandUnit
    (h (demandUnit .lowSignalTransfer b.lowSignalTransfer) (by simp [Config.bridgeChecks]))

/-- The scores are those after the effect of the rule, none of them below zero. -/
theorem value_bridge_of_rule? {b : BridgeSettings α} {reference signature : SlotVector α}
    {lower : String} {scores : Scores α} {rule : Rule}
    (h : b.rule? reference lower signature scores = some rule) :
    (b.bridge reference lower signature scores).value.1 =
      (b.effect scores rule).nonnegative.value := by
  rw [bridge, h]
  rfl

/-- What the low-signal rule says about the leader. -/
theorem of_rule?_lowSignal {b : BridgeSettings α} {reference signature : SlotVector α} {lower : String}
    {scores : Scores α} (h : b.rule? reference lower signature scores = some .lowSignal) :
    scores.leader ≠ .unknown ∧
      b.lowSignalShare < scores.get scores.leader / (scores.total + epsilon) := by
  have hholds := List.find?_some h
  simp only [holds, Bool.and_eq_true, decide_eq_true_eq] at hholds
  exact hholds.1

end BridgeSettings

theorem Config.Accepted.bridge {α : Type} [Scalar α] {config : Config α} (h : config.Accepted) :
    config.bridge.Accepted :=
  fun check hm => Config.accepted_iff.mp h check (by simp [Config.checks, hm])

namespace PerCategory

/-- A category other than `unknown` leads, with more than this share of the total. -/
structure LeadsWith (s : Scores Float) (share : Float) : Prop where
  ordinary : s.Ordinary
  leader_ne : s.leader ≠ .unknown
  share_inUnit : InUnit share
  share_lt : share < s.get s.leader / (s.total + epsilon)

/-- What is moved puts `unknown` ahead of the category that has led, and of every other one. -/
def UnseatedBy (s : Scores Float) (transfer : Float) : Prop :=
  s.get s.leader - s.get s.leader * transfer < s.get .unknown + s.get s.leader * transfer ∧
    ∀ c, c ≠ .unknown → c ≠ s.leader → s.get c < s.get .unknown + s.get s.leader * transfer

variable {s : Scores Float} {c d : Category} {share transfer : Float}

theorem Ordinary.zero_le_total (h : s.Ordinary) : 0 ≤ s.total := PerCategory.zero_le_total fun c => (h c).1

/-- Two of the scores already make up a part of the total. -/
theorem rounded_add_le_total (h : ∀ c, 0 ≤ s.get c) (hne : c ≠ d) :
    rounded (value (s.get c) + value (s.get d)) ≤ value s.total := by
  have hpair (c d : Category) (hsub : [c, d].Sublist Category.all) :
      rounded (value (s.get c) + value (s.get d)) ≤ value s.total := by
    have hle : sum [s.get c, s.get d] ≤ s.total :=
      sum_le_sum_of_sublist (hsub.map s.get) (forall_mem_toList.mpr h)
    have hsum : sum [s.get c, s.get d] = 0 + s.get c + s.get d := rfl
    have hzero : value (0 + s.get c) = value (s.get c) := by
      rw [(isNearest_add_of_zero_le zero_le_zero (h c)).2, value_zero, zero_add, rounded_value]
    rw [hsum, le_iff, (isNearest_add_of_zero_le (zero_le_add zero_le_zero (h c)) (h d)).2, hzero] at hle
    exact hle.2.2
  have horder : [c, d].Sublist Category.all ∨ [d, c].Sublist Category.all := by
    cases c <;> cases d <;> first | decide | exact absurd rfl hne
  rcases horder with hsub | hsub
  · exact hpair c d hsub
  · rw [add_comm]
    exact hpair d c hsub

/-- The same without the rounding. -/
theorem add_sub_error_le_total (h : ∀ c, 0 ≤ s.get c) (hf : s.total.isFinite = true) (hne : c ≠ d) :
    value (s.get c) + value (s.get d) - (value (s.get c) + value (s.get d)) / 2 ^ 53 -
      2 ^ leastExponent / 2 ≤ value s.total := by
  have hpair := rounded_add_le_total h hne
  have hnonneg := add_nonneg (value_nonneg (h c)) (value_nonneg (h d))
  have hlimit : |rounded (value (s.get c) + value (s.get d))| < limit := by
    rw [abs_of_nonneg (rounded_nonneg hnonneg)]
    exact (hpair.trans (le_abs_self _)).trans_lt ((isFinite_iff _).mp hf).2
  have herr := (abs_le.mp (abs_rounded_sub_le hlimit)).1
  rw [abs_of_nonneg hnonneg] at herr
  linarith

namespace LeadsWith

variable (h : s.LeadsWith share)

include h

/-- No share of an infinite total is above zero. -/
theorem isFinite_total : s.total.isFinite = true := by
  have hD : 0 ≤ s.total + epsilon :=
    zero_le_add h.ordinary.zero_le_total ((zero_le_iff _).mpr ⟨Defined.of_isFinite rfl, epsilon_pos.le⟩)
  rcases isFinite_or_infinity_of_zero_le hD with hf | hi
  · exact (isFinite_of_add hf).1
  · have hlt := ((lt_iff _ _).mp h.share_lt).2.2
    rw [value_div_of_infinity (h.ordinary.isFinite _) hi] at hlt
    exact absurd hlt (not_lt.mpr (value_nonneg h.share_inUnit.1))

/-- The share without the rounding of the division and of the denominator. -/
theorem share_mul_lt : value share * value s.total < value (s.get s.leader) ∧
    value share * value epsilon < value (s.get s.leader) := by
  have hT := value_nonneg h.ordinary.zero_le_total
  have hn := isNearest_add_epsilon h.isFinite_total
  have hDf := isFinite_add_epsilon h.ordinary.zero_le_total h.isFinite_total
  have hε := epsilon_pos
  have hleT : value s.total ≤ value (s.total + epsilon) := hn.le_value (by linarith)
  have hleε : value epsilon ≤ value (s.total + epsilon) := hn.le_value (by linarith)
  have hD : 0 < value (s.total + epsilon) := hε.trans_le hleε
  have hq := isNearest_div (h.ordinary.isFinite s.leader) hDf hD.ne'
  have hlt : value share < value (s.get s.leader) / value (s.total + epsilon) := by
    by_contra hn
    exact not_lt.mpr (hq.value_le (not_lt.mp hn)) ((lt_iff _ _).mp h.share_lt).2.2
  rw [lt_div_iff₀ hD] at hlt
  have hσ := value_nonneg h.share_inUnit.1
  exact ⟨(mul_le_mul_of_nonneg_left hleT hσ).trans_lt hlt,
    (mul_le_mul_of_nonneg_left hleε hσ).trans_lt hlt⟩

/-- What is moved is a part of the leader's score. -/
theorem moved_le (ht : InUnit transfer) :
    0 ≤ s.get s.leader * transfer ∧ s.get s.leader * transfer ≤ s.get s.leader ∧
      (s.get s.leader * transfer).isFinite = true := by
  have hsf := h.ordinary.isFinite s.leader
  obtain ⟨hm₀, hm⟩ := mul_le_of_inUnit (h.ordinary s.leader).1 hsf ht
  exact ⟨hm₀, hm, isFinite_of_le hm₀ hm hsf⟩

/-- What `unknown` has afterwards is still finite. -/
theorem isFinite_raised (ht : InUnit transfer) :
    (s.get .unknown + s.get s.leader * transfer).isFinite = true := by
  obtain ⟨hm₀, hm, -⟩ := h.moved_le ht
  have hn := isNearest_add_of_zero_le (h.ordinary .unknown).1 hm₀
  have hle : value (s.get .unknown + s.get s.leader * transfer) ≤ value s.total := by
    rw [hn.2]
    refine (rounded_mono ?_).trans
      (rounded_add_le_total (fun c => (h.ordinary c).1) h.leader_ne.symm)
    linarith [((le_iff _ _).mp hm).2.2]
  refine isFinite_of_le (zero_le_add (h.ordinary .unknown).1 hm₀)
    ((le_iff _ _).mpr ⟨hn.1, ?_, hle⟩) h.isFinite_total
  exact Defined.of_isFinite h.isFinite_total

theorem ordinary_transfer (ht : InUnit transfer) :
    (s.transfer s.leader .unknown transfer).Ordinary := by
  obtain ⟨hm₀, hm, hmf⟩ := h.moved_le ht
  refine ordinary_iff.mpr fun c => ?_
  rw [get_transfer s h.leader_ne]
  split_ifs
  · exact ⟨zero_le_add (h.ordinary .unknown).1 hm₀, h.isFinite_raised ht⟩
  · have hsf := h.ordinary.isFinite s.leader
    have hn := isNearest_sub hsf hmf
    have hkept : 0 ≤ s.get s.leader - s.get s.leader * transfer :=
      (zero_le_iff _).mpr ⟨hn.1, hn.nonneg (sub_nonneg.mpr ((le_iff _ _).mp hm).2.2)⟩
    exact ⟨hkept, isFinite_of_le hkept (sub_le hsf hm₀) hsf⟩
  · exact ordinary_iff.mp h.ordinary c

/-- `unknown` leads exactly if it has been put ahead of all others. -/
theorem leader_transfer_iff (ht : InUnit transfer) :
    (s.transfer s.leader .unknown transfer).leader = .unknown ↔ s.UnseatedBy transfer := by
  have hget := get_transfer s h.leader_ne transfer
  rw [leader_eq_unknown_iff fun c => defined_of_zero_le ((h.ordinary_transfer ht) c).1]
  constructor
  · intro hlt
    constructor
    · have := hlt s.leader h.leader_ne
      rwa [hget, hget, if_neg h.leader_ne, if_pos rfl, if_pos rfl] at this
    · intro c hc hl
      have := hlt c hc
      rwa [hget, hget, if_neg hc, if_neg hl, if_pos rfl] at this
  · rintro ⟨hleader, hrest⟩ c hc
    rw [hget, hget, if_neg hc, if_pos rfl]
    split_ifs with hl
    · exact hleader
    · exact hrest c hc hl

/-- When more than a half is moved, what the leader keeps is less. -/
theorem kept_lt_raised (ht : InUnit transfer) (hhalf : 1 / 2 < value transfer)
    (hs : 2 ^ (-1000 : ℤ) ≤ value (s.get s.leader)) :
    s.get s.leader - s.get s.leader * transfer < s.get .unknown + s.get s.leader * transfer := by
  have hsf := h.ordinary.isFinite s.leader
  obtain ⟨hm₀, -, hmf⟩ := h.moved_le ht
  have hmoved := half_lt_value_mul hsf ht.isFinite hs hhalf ((inUnit_iff _).mp ht).2.2
  have hkept := isNearest_sub hsf hmf
  have hraised := (le_iff _ _).mp (le_add_left (h.ordinary .unknown).1 hm₀)
  refine (lt_iff _ _).mpr ⟨hkept.1, hraised.2.1, lt_of_le_of_lt ?_ (hmoved.trans_le hraised.2.2)⟩
  rw [hkept.2, ← rounded_half hsf hs]
  exact rounded_mono (by linarith)

end LeadsWith

/-- A runner-up that shares the total with the leader, against what is moved from the leader's score. `P` is the
total and `M` what is moved, both with rounding errors. -/
theorem runnerUp_lt {σ t s r P M τ : ℝ} (hσ : 0 ≤ σ) (hσ₁ : σ ≤ 1) (ht₁ : t ≤ 1)
    (hτ : 0 ≤ τ) (hsmall : 2 ^ 56 * τ < s) (hP : s + r - (s + r) / 2 ^ 53 - τ ≤ P)
    (hM : s * t - s * t / 2 ^ 53 - τ ≤ M) (hshare : σ * P < s)
    (hreach : 1 + 1 / 2 ^ 52 ≤ σ * (1 + t)) : r < M := by
  by_contra hn
  have hr : s * t - s * t / 2 ^ 53 - τ ≤ r := hM.trans (not_lt.mp hn)
  have hs : 0 < s := by linarith
  -- what the two scores make at least, and how much more than one `σ` times that is
  set q : ℝ := (1 + t * (1 - 1 / 2 ^ 53)) * (1 - 1 / 2 ^ 53) with hq
  have hsum : s * q - 2 * τ ≤ P := by
    have : (s + (s * t - s * t / 2 ^ 53 - τ)) * (1 - 1 / 2 ^ 53) ≤ (s + r) * (1 - 1 / 2 ^ 53) :=
      mul_le_mul_of_nonneg_right (by linarith) (by norm_num)
    rw [hq]
    linarith
  have hshares : σ * t ≤ σ * (1 + t) / 2 := by linarith [mul_le_mul_of_nonneg_left ht₁ hσ]
  have hgain : 1 + 1 / 2 ^ 55 ≤ σ * q := by
    rw [hq]
    linarith
  have hmore : s * (1 + 1 / 2 ^ 55) - 2 * τ ≤ σ * P := by
    calc s * (1 + 1 / 2 ^ 55) - 2 * τ ≤ s * (σ * q) - σ * (2 * τ) := by
          have := mul_le_mul_of_nonneg_left hgain hs.le
          have := mul_le_mul_of_nonneg_right hσ₁ (by linarith : 0 ≤ 2 * τ)
          linarith
      _ = σ * (s * q - 2 * τ) := by ring
      _ ≤ σ * P := mul_le_mul_of_nonneg_left hsum hσ
  linarith

namespace LeadsWith

/-- A leader with more than a half of the total is not tiny, because of what guards the denominator. -/
theorem epsilon_lt_leader (h : s.LeadsWith share) (hhalf : 1 / 2 < value share) :
    value epsilon / 2 < value (s.get s.leader) := by
  have := mul_le_mul_of_nonneg_right hhalf.le epsilon_pos.le
  linarith [h.share_mul_lt.2]

/-- Where more than a half is moved and the share is so large that no runner-up comes close, `unknown` is put
ahead. -/
theorem unseatedBy (h : s.LeadsWith share) (ht : InUnit transfer) (hhalf : 1 / 2 < value transfer)
    (hreach : 1 + 2 ^ (-52 : ℤ) ≤ value share * (1 + value transfer)) : s.UnseatedBy transfer := by
  obtain ⟨-, ht₀, ht₁⟩ := (inUnit_iff _).mp ht
  obtain ⟨-, hσ₀, hσ₁⟩ := (inUnit_iff _).mp h.share_inUnit
  have hunit : (2 : ℝ) ^ (-52 : ℤ) = 1 / 2 ^ 52 := by rw [zpow_neg, one_div]; norm_num
  rw [hunit] at hreach
  have hσhalf : 1 / 2 < value share := by
    have := mul_le_mul_of_nonneg_left ht₁ hσ₀
    linarith [show (0 : ℝ) < 1 / 2 ^ 52 by positivity]
  have hs := h.epsilon_lt_leader hσhalf
  refine ⟨h.kept_lt_raised ht hhalf (two_pow_le_half_epsilon.trans hs.le), fun c hc hl => ?_⟩
  obtain ⟨hm₀, -, hmf⟩ := h.moved_le ht
  have hraised := (le_iff _ _).mp (le_add_left (h.ordinary .unknown).1 hm₀)
  have hmoved := (isNearest_mul (h.ordinary.isFinite _) ht.isFinite).sub_error_le hmf
    (mul_nonneg (value_nonneg (h.ordinary s.leader).1) ht₀)
  have hpair := add_sub_error_le_total (fun d => (h.ordinary d).1) h.isFinite_total (Ne.symm hl)
  have hlt : value (s.get c) < value (s.get s.leader * transfer) := by
    refine runnerUp_lt hσ₀ hσ₁ ht₁ (by positivity) ?_ hpair hmoved h.share_mul_lt.1 hreach
    linarith [tiny_le, epsilon_pos]
  exact (lt_iff _ _).mpr ⟨defined_of_zero_le (h.ordinary c).1, hraised.2.1, hlt.trans_le hraised.2.2⟩

end LeadsWith

end PerCategory

namespace BridgeSettings

open PerCategory

variable {b : BridgeSettings Float} {scores : Scores Float}

/-- The low-signal rule takes effect: `unknown` leads exactly if what is moved puts it ahead of all others, and it
does so whenever more than a half is moved and a runner-up cannot come close. -/
theorem leader_of_lowSignal (h : b.Accepted) (reference : SlotVector Float) (lower : String)
    (signature : SlotVector Float) (h₀ : scores.Ordinary)
    (hr : (b.bridge reference lower signature scores).value.2 = some .lowSignal) :
    ((b.bridge reference lower signature scores).value.1.leader = .unknown ↔
      scores.UnseatedBy b.lowSignalTransfer) ∧
    (1 / 2 < value b.lowSignalTransfer →
      1 + 2 ^ (-52 : ℤ) ≤ value b.lowSignalShare * (1 + value b.lowSignalTransfer) →
      (b.bridge reference lower signature scores).value.1.leader = .unknown) := by
  have hrule := (b.value_bridge_rule reference lower signature scores).symm.trans hr
  obtain ⟨hne, hlt⟩ := of_rule?_lowSignal hrule
  have hlead : scores.LeadsWith b.lowSignalShare := ⟨h₀, hne, h.inUnit_lowSignalShare, hlt⟩
  have ht := h.inUnit_lowSignalTransfer
  have hmap : (b.bridge reference lower signature scores).value.1 =
      scores.transfer scores.leader .unknown b.lowSignalTransfer :=
    (value_bridge_of_rule? hrule).trans (hlead.ordinary_transfer ht).nonnegative_eq_self
  rw [hmap, hlead.leader_transfer_iff ht]
  exact ⟨Iff.rfl, fun hhalf hreach => hlead.unseatedBy ht hhalf hreach⟩

/-- Bridging a text without words and without a signature. -/
def bridgeSilence (b : BridgeSettings Float) (scores : Scores Float) : Scores Float × Option Rule :=
  (b.bridge Config.Default.features.reference "" SlotVector.zero scores).value

/-- The default settings move a half. That leaves `greeting` and `unknown` level where `unknown` had nothing, and
it leaves both behind a runner-up with more than a half of what `greeting` had. -/
theorem default_transfer_not_enough :
    let b : BridgeSettings Float := Config.Default.bridge
    let alone : Scores Float := ⟨0.9, 0, 0, 0, 0, 0, 0, 0⟩
    let level : Scores Float := ⟨0.45, 0, 0, 0, 0, 0, 0, 0.45⟩
    let close : Scores Float := ⟨0.61, 0.39, 0, 0, 0, 0, 0, 0⟩
    let behind : Scores Float := ⟨0.305, 0.39, 0, 0, 0, 0, 0, 0.305⟩
    (b.Accepted ∧ 0.5 ≤ b.lowSignalTransfer) ∧
      (alone.Ordinary ∧ b.bridgeSilence alone = (level, some .lowSignal) ∧
        level.leader = .greeting) ∧
      (close.Ordinary ∧ b.bridgeSilence close = (behind, some .lowSignal) ∧
        behind.leader = .help) := by
  intro b alone level close behind
  have hb : b.Accepted := by decide +kernel
  have htransfer : 0.5 ≤ b.lowSignalTransfer := by decide +kernel
  have halone : b.bridgeSilence alone = (level, some .lowSignal) := by decide +kernel
  have hclose : b.bridgeSilence close = (behind, some .lowSignal) := by decide +kernel
  exact ⟨⟨hb, htransfer⟩, ⟨by decide +kernel, halone, by decide +kernel⟩, by decide +kernel, hclose,
    by decide +kernel⟩

theorem value_three_quarters : value 0.75 = 3 / 4 := by
  have hu : (0.75 : Float).toModel.unpack =
      .finite .positive (3 * 2 ^ 51) (-53) (by norm_num) := by rfl
  rw [value_of_unpack_positive hu, zpow_neg]
  norm_num

/-- Three quarters are enough for leaders with more than three quarters of the total. -/
theorem three_quarters_redirected :
    let b : BridgeSettings Float :=
      { Config.Default.bridge with lowSignalShare := 0.75, lowSignalTransfer := 0.75 }
    let scores : Scores Float := ⟨0.875, 0.125, 0, 0, 0, 0, 0, 0⟩
    b.Accepted ∧ scores.Ordinary ∧ (b.bridgeSilence scores).2 = some .lowSignal ∧
      (b.bridgeSilence scores).1.leader = .unknown := by
  intro b scores
  have h : b.Accepted := by decide +kernel
  have h₀ : scores.Ordinary := by decide +kernel
  have hr : (b.bridgeSilence scores).2 = some .lowSignal := by decide +kernel
  have hhalf : 1 / 2 < value b.lowSignalTransfer := by
    change 1 / 2 < value 0.75
    rw [value_three_quarters]
    norm_num
  have hreach : 1 + 2 ^ (-52 : ℤ) ≤ value b.lowSignalShare * (1 + value b.lowSignalTransfer) := by
    change 1 + 2 ^ (-52 : ℤ) ≤ value 0.75 * (1 + value 0.75)
    rw [value_three_quarters, zpow_neg]
    norm_num
  exact ⟨h, h₀, hr, (leader_of_lowSignal h _ _ _ h₀ hr).2 hhalf hreach⟩

end BridgeSettings
end TextIntent
