import Mathlib
import TextIntent.Channel.Gate
import TextIntent.Proofs.Real.Heating
import TextIntent.Proofs.Real.Scores

/-! How the response of a channel follows its drive. Every curve rises, and neither the scale of a channel nor the
bounds of a response change that. So through a filter that is nowhere negative more heat gives no less response,
and a step against a gradient of one sign moves the response in one direction, however large the step is. -/
namespace TextIntent.Exact

open Scalar Config

section Curves

theorem sigmoid_eq (x : ℝ) : Activation.sigmoid.apply x = Real.sigmoid x :=
  one_div _

/-- Moved into the unit interval, the hyperbolic tangent is a sigmoid that rises twice as fast. -/
theorem tanh_eq (x : ℝ) : Activation.tanh.apply x = Real.sigmoid (2 * x) := by
  have hsplit : Real.exp (-(2 * x)) = Real.exp (-x) / Real.exp x := by
    rw [← Real.exp_sub]
    ring_nf
  have hpos := Real.exp_pos x
  have hneg := Real.exp_pos (-x)
  change 0.5 * (Real.tanh x + 1) = _
  rw [Real.sigmoid_def, hsplit, Real.tanh_eq_sinh_div_cosh, Real.sinh_eq, Real.cosh_eq]
  field_simp
  ring

/-- The two cases of the softplus are one logarithm. -/
theorem softplus_eq (x : ℝ) : Activation.softplus.apply x = Real.log (1 + Real.exp x) := by
  change larger x 0 + Real.log (1 + Real.exp (-|x|)) = _
  rw [larger_eq]
  rcases le_total 0 x with h | h
  · have hfactor : 1 + Real.exp x = Real.exp x * (1 + Real.exp (-x)) := by
      rw [mul_add, ← Real.exp_add, add_neg_cancel, Real.exp_zero]
      ring
    rw [max_eq_left h, abs_of_nonneg h, hfactor,
      Real.log_mul (Real.exp_ne_zero x) (by positivity), Real.log_exp]
  · rw [max_eq_right h, abs_of_nonpos h, neg_neg, zero_add]

theorem apply_mono (a : Activation) : Monotone (a.apply : ℝ → ℝ) := by
  intro x y h
  cases a with
  | sigmoid =>
    rw [sigmoid_eq, sigmoid_eq]
    exact Real.sigmoid_monotone h
  | tanh =>
    rw [tanh_eq, tanh_eq]
    exact Real.sigmoid_monotone (by linarith)
  | softplus =>
    rw [softplus_eq, softplus_eq]
    exact Real.log_le_log (by positivity) (by gcongr)
  | linear => exact h

end Curves

section Drive

variable {s : ChannelSettings ℝ} {filter filter' heated heated' : SlotVector ℝ}

theorem value_respond (s : ChannelSettings ℝ) (filter heated : SlotVector ℝ) :
    (s.respond filter heated).value =
      clamp 0 1 (s.scale * s.activation.apply (SlotVector.dot heated filter + s.bias)) :=
  value_confine _ _ _

/-- The response rises with the drive. -/
theorem respond_le_of_dot_le (hs : 0 < s.scale)
    (h : SlotVector.dot heated filter ≤ SlotVector.dot heated' filter') :
    (s.respond filter heated).value ≤ (s.respond filter' heated').value := by
  have hcurve := apply_mono s.activation (add_le_add_left h s.bias)
  rw [value_respond, value_respond]
  exact clamp_mono zero_le_one (mul_le_mul_of_nonneg_left hcurve hs.le)

theorem dot_le_dot (hf : ∀ i, 0 ≤ filter.get i) (h : ∀ i, heated.get i ≤ heated'.get i) :
    SlotVector.dot heated filter ≤ SlotVector.dot heated' filter := by
  rw [dot_eq_sum, dot_eq_sum]
  exact Finset.sum_le_sum fun i _ => mul_le_mul_of_nonneg_right (h i) (hf i)

/-- A step takes its part of the gradient from the drive. -/
theorem dot_adjusted (filter heated g : SlotVector ℝ) (rate : ℝ) :
    SlotVector.dot heated (filter.zipWith (fun f g => f - rate * g) g) =
      SlotVector.dot heated filter - rate * SlotVector.dot heated g := by
  simp only [dot_eq_sum, Vector.get_eq_getElem, Vector.getElem_zipWith, Finset.mul_sum,
    ← Finset.sum_sub_distrib]
  exact Finset.sum_congr rfl fun i _ => by ring

end Drive

section Adjusted

variable {config : Config ℝ} {filter heated gradient : SlotVector ℝ} {rate : ℝ}

theorem dot_nonneg (hh : ∀ i, 0 ≤ heated.get i) (hg : ∀ i, 0 ≤ gradient.get i) :
    0 ≤ SlotVector.dot heated gradient := by
  rw [dot_eq_sum]
  exact Finset.sum_nonneg fun i _ => mul_nonneg (hh i) (hg i)

theorem dot_nonpos (hh : ∀ i, 0 ≤ heated.get i) (hg : ∀ i, gradient.get i ≤ 0) :
    SlotVector.dot heated gradient ≤ 0 := by
  rw [dot_eq_sum]
  exact Finset.sum_nonpos fun i _ => mul_nonpos_of_nonneg_of_nonpos (hh i) (hg i)

/-- The response of a channel rises with its drive. Through a filter that is nowhere negative it rises with the
heated signature, slot by slot; and an adjustment, which is always possible, moves it against the sign of the
gradient or not at all. -/
theorem respond_monotone (h : config.Accepted) (c : Channel) :
    let s := config.channels.get c
    (∀ filter filter' heated heated' : SlotVector ℝ,
      SlotVector.dot heated filter ≤ SlotVector.dot heated' filter' →
        (s.respond filter heated).value ≤ (s.respond filter' heated').value) ∧
    (∀ filter heated heated' : SlotVector ℝ, (∀ i, 0 ≤ filter.get i) →
      (∀ i, heated.get i ≤ heated'.get i) →
        (s.respond filter heated).value ≤ (s.respond filter heated').value) ∧
    ∀ (filter heated gradient : SlotVector ℝ) (rate : ℝ), (∀ i, 0 ≤ heated.get i) → 0 ≤ rate →
      ∃ filter', (s.adjusted filter gradient.toList rate).run.value = .ok filter' ∧
        ((∀ i, gradient.get i ≤ 0) →
          (s.respond filter heated).value ≤ (s.respond filter' heated).value) ∧
        ((∀ i, 0 ≤ gradient.get i) →
          (s.respond filter' heated).value ≤ (s.respond filter heated).value) := by
  intro s
  have hs : 0 < s.scale := scale_pos h c
  refine ⟨fun _ _ _ _ => respond_le_of_dot_le hs, fun filter heated heated' hf hle => ?_,
    fun filter heated gradient rate hh hr =>
      ⟨_, adjusted_eq_ok s filter (SlotVector.ofList?_toList gradient) rate, ?_, ?_⟩⟩
  · exact respond_le_of_dot_le hs (dot_le_dot hf hle)
  · intro hg
    refine respond_le_of_dot_le hs ?_
    have hstep : rate * SlotVector.dot heated gradient ≤ 0 :=
      mul_nonpos_of_nonneg_of_nonpos hr (dot_nonpos hh hg)
    rw [dot_adjusted]
    linarith
  · intro hg
    refine respond_le_of_dot_le hs ?_
    have hstep : 0 ≤ rate * SlotVector.dot heated gradient := mul_nonneg hr (dot_nonneg hh hg)
    rw [dot_adjusted]
    linarith

/-- The liberal channel of the default settings: twice the heat, and then a large step against a gradient that is
negative in every slot. -/
theorem liberal_respond_monotone :
    let s := (Config.default : Config ℝ).channels.get .liberal
    let warm : SlotVector ℝ := Vector.replicate 10 0.1
    let hot : SlotVector ℝ := Vector.replicate 10 0.2
    let falling : SlotVector ℝ := Vector.replicate 10 (-1)
    (Config.default : Config ℝ).Accepted ∧
      (s.respond hot warm).value ≤ (s.respond hot hot).value ∧
        ∃ filter', (s.adjusted hot falling.toList 50).run.value = .ok filter' ∧
          (s.respond hot hot).value ≤ (s.respond filter' hot).value := by
  intro s warm hot falling
  obtain ⟨-, hheat, hadjust⟩ := respond_monotone default_accepted .liberal
  have hhot : ∀ i, 0 ≤ hot.get i := by norm_num [hot, Vector.get_eq_getElem]
  obtain ⟨filter', hok, hraised, -⟩ := hadjust hot hot falling 50 hhot (by norm_num)
  refine ⟨default_accepted, hheat hot warm hot hhot fun i => ?_, filter', hok, hraised fun i => ?_⟩
  · norm_num [warm, hot, Vector.get_eq_getElem]
  · norm_num [falling, Vector.get_eq_getElem]

end Adjusted

end TextIntent.Exact
